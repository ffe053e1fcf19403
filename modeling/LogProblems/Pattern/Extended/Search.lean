import LogProblems.Pattern.Extended.Meaning
import LogProblems.Pattern.Automaton
import LogProblems.Unicode.Grapheme

/-!
# Searching by backtracking

An expression is matched part by part.  What is left to match is a list of goals; where
there is a choice, the other ways are kept as a list of states to go back to.  What must
not be gone back into, such as a look ahead or an atomic group, is matched on its own.

A state also says how far the text may be taken, which absent patterns bring nearer, and
which calls and groups it came through, which references at a level look back at.

The number of steps is bounded: a search that takes more finds nothing.
-/

set_option autoImplicit false

namespace LogProblems.Pattern.Extended

open LogProblems.Unicode

/-- The slots of a match: the start of group `i` in slot `2 * i` and its end in slot
`2 * i + 1`, where group 0 is the whole match. -/
abbrev Slots := Array (Option Nat)

/-- What is left to match. -/
inductive Goal where
  | expr (e : Expr)
  /-- The group that began at `start` ends here. -/
  | close (group start : Nat)
  /-- A call ends here. -/
  | leave
  /-- From here on the text may be taken up to `limit`. -/
  | within (limit : Nat)
  /-- A round of a repetition ends here, the `done`-th one; it began at `start`, with
  the slots `before`. -/
  | round (body : Expr) (loop : Loop) (done start : Nat) (before : Slots)
  deriving Inhabited

/-- What a search comes through. -/
inductive Event where
  /-- A call begins. -/
  | enter
  /-- A call ends. -/
  | leave
  | opened (group position : Nat)
  | closed (group position : Nat)
  deriving DecidableEq, Repr, Inhabited

/-- A state of the search. -/
structure State where
  goals : List Goal
  position : Nat
  /-- No text behind this place is taken. -/
  limit : Nat
  slots : Slots
  /-- What the search came through, the latest first. -/
  trail : List Event
  deriving Inhabited

/-! ## Single places and texts -/

/-- A place is between two grapheme clusters. -/
def atClusterBoundary (text : Array Char) (i : Nat) : Bool :=
  Grapheme.isBoundary (text.extract 0 i).toList.reverse text[i]?

/-- A place satisfies a condition. -/
def Place.holds (p : Place) (text : Array Char) (i : Nat) : Bool :=
  let before := if i = 0 then none else text[i - 1]?
  let after := text[i]?
  match p with
  | textStart => i == 0
  | textEnd => after.isNone
  | lastLineEnd => after.isNone || (after == some '\n' && i + 1 == text.size)
  | lineStart => i == 0 || (before == some '\n' && after.isSome)
  | lineEnd => after.isNone || after == some '\n'
  | boundary word => before.any word.contains != after.any word.contains
  | noBoundary word => before.any word.contains == after.any word.contains
  | clusterBoundary => atClusterBoundary text i
  | noClusterBoundary => !atClusterBoundary text i

/-- A list without another one at its front. -/
def afterLead? : List Nat → List Nat → Option (List Nat)
  | [], codes => some codes
  | _, [] => none
  | a :: as, b :: bs => if a = b then afterLead? as bs else none

/-- Where a text ends that starts at a position and folds to some code points; `fuel`
bounds its length. -/
def foldedEnd? (text : Array Char) : Nat → Nat → List Nat → Option Nat
  | _, i, [] => some i
  | 0, _, _ => none
  | fuel + 1, i, codes =>
    match text[i]? with
    | none => none
    | some c =>
      match afterLead? (Folding.full c.toNat) codes with
      | some codes => foldedEnd? text fuel (i + 1) codes
      | none => none

/-- Where a text ends that starts at a position and repeats the text of `n` characters
from `start` on. -/
def repeatedEnd? (text : Array Char) (anyCase : Bool) : Nat → Nat → Nat → Option Nat
  | 0, _, i => some i
  | n + 1, start, i =>
    match text[start]?, text[i]? with
    | some a, some b =>
      if a == b || (anyCase && Folding.full a.toNat == Folding.full b.toNat) then
        repeatedEnd? text anyCase n (start + 1) (i + 1)
      else none
    | _, _ => none

/-- The ends of a group that took part. -/
def ends? (slots : Slots) (group : Nat) : Option (Nat × Nat) :=
  match (slots[2 * group]?).join, (slots[2 * group + 1]?).join with
  | some start, some stop => some (start, stop)
  | _, _ => none

/-- The ends of the latest of some groups at a level of calls, where `depth` is the level
of the first event, and `stop` the end of a group found so far. -/
def nestedEnds? (groups : List Nat) (level : Int) :
    Int → Option Nat → List Event → Option (Nat × Nat)
  | _, _, [] => none
  | depth, stop, event :: trail =>
    match event with
    | .enter => nestedEnds? groups level (depth - 1) stop trail
    | .leave => nestedEnds? groups level (depth + 1) stop trail
    | .opened group i =>
      match depth == level && groups.contains group, stop with
      | true, some stop => some (i, stop)
      | _, _ => nestedEnds? groups level depth stop trail
    | .closed group i =>
      nestedEnds? groups level depth
        (if depth == level && groups.contains group then some i else stop) trail

/-- One of some groups ended at a level of calls, where `depth` is the level of the first
event. -/
def nestedPresent (groups : List Nat) (level : Int) : Int → List Event → Bool
  | _, [] => false
  | depth, event :: trail =>
    match event with
    | .enter => nestedPresent groups level (depth - 1) trail
    | .leave => nestedPresent groups level (depth + 1) trail
    | .opened .. => nestedPresent groups level depth trail
    | .closed group _ =>
      (depth == level && groups.contains group) || nestedPresent groups level depth trail

/-- Where the text of the first of some groups that comes again at the position ends; at a
level only the latest group there is looked at. -/
def State.referenceEnd? (s : State) (text : Array Char) (groups : List Nat) (anyCase : Bool)
    (level : Option Int) : Option Nat :=
  let again (ends : Nat × Nat) : Option Nat :=
    (repeatedEnd? text anyCase (ends.2 - ends.1) ends.1 s.position).filter (· ≤ s.limit)
  match level with
  | none => groups.findSome? fun g => (ends? s.slots g).bind again
  | some level => (nestedEnds? groups level 0 none s.trail).bind again

/-- One of some groups took part, perhaps at a level. -/
def State.isPresent (s : State) (groups : List Nat) : Option Int → Bool
  | none => groups.any fun g => (ends? s.slots g).isSome
  | some level => nestedPresent groups level 0 s.trail

/-- A round that takes no text at a position counts nevertheless: a watched group took
part for the first time, or took another text than the empty one there. -/
def changesWatched (watched : List Nat) (before after : Slots) (position : Nat) : Bool :=
  watched.any fun g =>
    match ends? before g, ends? after g with
    | _, none => false
    | none, some _ => true
    | some old, some new => old != new && new != (position, position)

/-! ## Matching -/

/-- What a step of the search leads to. -/
inductive Move where
  /-- On to a state, with others to go back to. -/
  | on (next : State) (others : List State)
  /-- Back to the latest choice. -/
  | back
  deriving Inhabited

/-- On to a state without a choice. -/
def Move.to (next : State) : Move := .on next []

/-- On to the first of some states, or back if there is none. -/
def Move.among : List State → Move
  | [] => .back
  | first :: others => .on first others

/-- A round of a repetition after `done` rounds. -/
def State.startRound (s : State) (body : Expr) (loop : Loop) (done : Nat)
    (rest : List Goal) : State :=
  { s with goals := .expr body :: .round body loop done s.position s.slots :: rest }

/-- Another round of a repetition, or what follows it, after `done` rounds. -/
def State.repeatOrLeave (s : State) (body : Expr) (loop : Loop) (done : Nat)
    (rest : List Goal) : Move :=
  let round := s.startRound body loop done rest
  let leave := { s with goals := rest }
  if done < loop.min then .to round
  else if loop.max.any (· ≤ done) then .to leave
  else if loop.greedy then .on round [leave]
  else .on leave [round]

/-- The first place from the position on, up to the limit, where an expression matches;
the limit if there is none. -/
def State.firstMatch (alone : State → Option State) (s : State) (e : Expr) : Nat :=
  let places := (List.range (s.limit - s.position)).map (s.position + ·)
  let found := places.find? fun i => (alone { s with goals := [.expr e], position := i }).isSome
  found.getD s.limit

/-- Calls an expression. -/
def State.enter (s : State) (e : Expr) (rest : List Goal) : State :=
  { s with goals := .expr e :: .leave :: rest, trail := .enter :: s.trail }

/-- Matches one expression in a state, with the goals in `rest` after it.  What is matched
on its own is matched by `alone`. -/
def State.stepExpr (program : Array Expr) (text : Array Char)
    (alone : State → Option State) (s : State) (rest : List Goal) : Expr → Move
  | .chars set =>
    if s.position < s.limit && text[s.position]?.any set.contains then
      .to { s with goals := rest, position := s.position + 1 }
    else .back
  | .folded codes =>
    match (foldedEnd? text codes.length s.position codes).filter (· ≤ s.limit) with
    | some j => .to { s with goals := rest, position := j }
    | none => .back
  | .place p => if p.holds text s.position then .to { s with goals := rest } else .back
  | .keep => .to { s with goals := rest, slots := s.slots.set! 0 (some s.position) }
  | .reference groups anyCase level =>
    match s.referenceEnd? text groups anyCase level with
    | some j => .to { s with goals := rest, position := j }
    | none => .back
  | .present groups level =>
    if s.isPresent groups level then .to { s with goals := rest } else .back
  | .call group =>
    match program[group]? with
    | some body => .to (s.enter body rest)
    | none => .back
  | .called body => .to (s.enter body rest)
  | .group index body =>
    .to { s with
      goals := .expr body :: .close index s.position :: rest
      slots := s.slots.set! (2 * index) (some s.position)
      trail := .opened index s.position :: s.trail }
  | .sequence parts => .to { s with goals := parts.map .expr ++ rest }
  | .choice choices =>
    .among (choices.map fun c => { s with goals := .expr c :: rest })
  | .repeated body loop => s.repeatOrLeave body loop 0 rest
  | .atomic body =>
    match alone { s with goals := [.expr body] } with
    | some t => .to { t with goals := rest }
    | none => .back
  | .ahead negated body =>
    match negated, alone { s with goals := [.expr body] } with
    | false, some t => .to { t with goals := rest, position := s.position }
    | true, none => .to { s with goals := rest }
    | _, _ => .back
  | .behind negated width body =>
    let found :=
      if width ≤ s.position then
        alone { s with goals := [.expr body], position := s.position - width }
      else none
    match negated, found with
    | false, some t => .to { t with goals := rest, position := s.position }
    | true, none => .to { s with goals := rest }
    | _, _ => .back
  | .conditional test yes no =>
    match alone { s with goals := [.expr test] } with
    | some t => .to { t with goals := .expr yes :: rest }
    | none => .to { s with goals := .expr no :: rest }
  | .absent stop body =>
    .to { s with
      goals := .expr body :: .within s.limit :: rest
      limit := s.firstMatch alone stop }
  | .cut stop => .to { s with goals := rest, limit := s.firstMatch alone stop }
  | .uncut => .to { s with goals := rest, limit := text.size }

/-- A step of the search for the first goal of a state, which has the goals in `rest`
after it. -/
def State.step (program : Array Expr) (text : Array Char)
    (alone : State → Option State) (s : State) (rest : List Goal) : Goal → Move
  | .expr e => s.stepExpr program text alone rest e
  | .close group start =>
    .to { s with
      goals := rest
      slots := (s.slots.set! (2 * group) (some start)).set! (2 * group + 1) (some s.position)
      trail := .closed group s.position :: s.trail }
  | .leave => .to { s with goals := rest, trail := .leave :: s.trail }
  | .within limit => .to { s with goals := rest, limit }
  | .round body loop done start before =>
    let guarded := if done < loop.min then loop.guardsRequired else loop.guardsOptional
    if guarded && start = s.position
        && !changesWatched loop.watched before s.slots s.position then
      .to { s with goals := rest }
    else s.repeatOrLeave body loop (done + 1) rest

/-- Matches from a state on; `back` are the states to go back to, the latest first.  The
result is the state in which nothing is left to match. -/
def run (program : Array Expr) (text : Array Char) :
    Nat → State → List State → Option State
  | 0, _, _ => none
  | fuel + 1, s, back =>
    match s.goals with
    | [] => some s
    | goal :: rest =>
      match s.step program text (fun t => run program text fuel t []) rest goal with
      | .on next others => run program text fuel next (others ++ back)
      | .back =>
        match back with
        | [] => none
        | latest :: earlier => run program text fuel latest earlier

/-- The bound on the steps of a match from one position. -/
def stepLimit : Nat := 200000000

/-- Searches from each position in turn, `left` of them, the first being `start`. -/
def searchFrom (p : Program) (text : Array Char) : Nat → Nat → Option Slots
  | 0, _ => none
  | left + 1, start =>
    let slots : Slots := (Array.replicate (2 * p.groups.size) none).set! 0 (some start)
    let first : State :=
      { goals := [.expr (.call 0)], position := start, limit := text.size, slots, trail := [] }
    match run p.groups text stepLimit first [] with
    | some last => some (last.slots.set! 1 (some last.position))
    | none => searchFrom p text left (start + 1)

/-- The slots of the first match in a text.  No match begins where less text is left than
the shortest one takes. -/
def Program.search (p : Program) (text : Array Char) : Option Slots :=
  searchFrom p text (text.size + 1 - p.minLength) 0

end LogProblems.Pattern.Extended
