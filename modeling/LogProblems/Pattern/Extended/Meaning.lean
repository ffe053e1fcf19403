import LogProblems.Pattern.Extended.Expression
import LogProblems.Pattern.Extended.Reader

/-!
# What the extended notation means

`meaning` gives the expression that a pattern stands for, or nothing when it stands for
none: it refers to a group that does not exist, it looks back over texts of different
lengths, or a group calls itself without end.

Once a group has a name, plain groups capture nothing, and the named ones are numbered
among themselves.
-/

set_option autoImplicit false

namespace LogProblems.Pattern.Extended

open LogProblems.Unicode

/-! ## Groups -/

/-- A change of group numbers; a group without a number captures nothing. -/
abbrev Numbering := Nat → Option Nat

/-- The numbering in which only named groups count. -/
def namedNumbering (names : List (String × Nat)) : Numbering :=
  let numbers := (names.map (·.2)).reverse
  fun n => (numbers.idxOf? n).map (· + 1)

mutual

/-- A pattern with its groups numbered anew; nothing when a group without a name is
referred to by number. -/
def Syntax.renumber (f : Numbering) : Syntax → Option Syntax
  | .reference groups byName anyCase level =>
    if byName then some (.reference (groups.filterMap f) true anyCase level) else none
  | .present groups byName level =>
    if byName then some (.present (groups.filterMap f) true level) else none
  | .call (.number _) => none
  | .group i named body => do
    let body ← body.renumber f
    match f i with
    | some n => return .group n named body
    | none => return body
  | .sequence parts => return .sequence (← Syntax.renumberAll f parts)
  | .choice choices => return .choice (← Syntax.renumberAll f choices)
  | .repeated body count => return (← body.renumber f).repeat' count
  | .atomic body => return .atomic (← body.renumber f)
  | .ahead negated body => return .ahead negated (← body.renumber f)
  | .behind negated body => return .behind negated (← body.renumber f)
  | .conditional test yes no =>
    return .conditional (← test.renumber f) (← yes.renumber f) (← no.renumber f)
  | .absent stop body => return .absent (← stop.renumber f) (← body.renumber f)
  | .cut stop => return .cut (← stop.renumber f)
  | s => some s

/-- Patterns in a row with their groups numbered anew. -/
def Syntax.renumberAll (f : Numbering) : List Syntax → Option (List Syntax)
  | [] => some []
  | s :: rest => return (← s.renumber f) :: (← Syntax.renumberAll f rest)

end

mutual

/-- The groups of a pattern with their bodies. -/
def Syntax.groups : Syntax → List (Nat × Syntax)
  | .group i _ body => (i, body) :: body.groups
  | .sequence parts => Syntax.groupsAll parts
  | .choice choices => Syntax.groupsAll choices
  | .repeated body _ => body.groups
  | .atomic body => body.groups
  | .ahead _ body => body.groups
  | .behind _ body => body.groups
  | .conditional test yes no => test.groups ++ yes.groups ++ no.groups
  | .absent stop body => stop.groups ++ body.groups
  | .cut stop => stop.groups
  | _ => []

/-- The groups of patterns in a row. -/
def Syntax.groupsAll : List Syntax → List (Nat × Syntax)
  | [] => []
  | s :: rest => s.groups ++ Syntax.groupsAll rest

end

mutual

/-- The groups a pattern refers to. -/
def Syntax.references : Syntax → List Nat
  | .reference groups _ _ _ => groups
  | .present groups _ _ => groups
  | .group _ _ body => body.references
  | .sequence parts => Syntax.referencesAll parts
  | .choice choices => Syntax.referencesAll choices
  | .repeated body _ => body.references
  | .atomic body => body.references
  | .ahead _ body => body.references
  | .behind _ body => body.references
  | .conditional test yes no => test.references ++ yes.references ++ no.references
  | .absent stop body => stop.references ++ body.references
  | .cut stop => stop.references
  | _ => []

/-- The groups that patterns in a row refer to. -/
def Syntax.referencesAll : List Syntax → List Nat
  | [] => []
  | s :: rest => s.references ++ Syntax.referencesAll rest

end

mutual

/-- The calls of a pattern. -/
def Syntax.calls : Syntax → List Target
  | .call target => [target]
  | .group _ _ body => body.calls
  | .sequence parts => Syntax.callsAll parts
  | .choice choices => Syntax.callsAll choices
  | .repeated body _ => body.calls
  | .atomic body => body.calls
  | .ahead _ body => body.calls
  | .behind _ body => body.calls
  | .conditional test yes no => test.calls ++ yes.calls ++ no.calls
  | .absent stop body => stop.calls ++ body.calls
  | .cut stop => stop.calls
  | _ => []

/-- The calls of patterns in a row. -/
def Syntax.callsAll : List Syntax → List Target
  | [] => []
  | s :: rest => s.calls ++ Syntax.callsAll rest

end

/-- What is known of a whole pattern while its parts are given a meaning. -/
structure Context where
  /-- The number of groups. -/
  total : Nat
  names : List (String × Nat)
  /-- The bodies of the groups; group 0 is the whole pattern. -/
  bodies : List (Nat × Syntax)
  /-- The groups that are referred to. -/
  referenced : List Nat
  /-- The groups that are called. -/
  called : List Nat := []

/-- The group that a call is for.  A name given to several groups is that of none. -/
def Context.target? (x : Context) : Target → Option Nat
  | .number n => if n ≤ x.total then some n else none
  | .name name =>
    match x.names.filter (·.1 == name) with
    | [(_, n)] => some n
    | _ => none

/-! ## Lengths -/

/-- The lengths of the texts that a pattern matches; `sure` if a text of the least
length matches wherever it stands. -/
structure Width where
  min : Nat
  max : Option Nat
  sure : Bool
  deriving DecidableEq, Repr, Inhabited

namespace Width

/-- The lengths of the empty text. -/
def zero : Width := ⟨0, some 0, true⟩

/-- All lengths are one. -/
def isFixed (w : Width) : Bool := w.max == some w.min

/-- The lengths of two texts in a row. -/
def add (v w : Width) : Width :=
  ⟨v.min + w.min, do return (← v.max) + (← w.max), v.sure && w.sure⟩

/-- The lengths of one text or another. -/
def orElse (v w : Width) : Width :=
  { min := Nat.min v.min w.min
    max := do return Nat.max (← v.max) (← w.max)
    sure := if w.min ≤ v.min then v.sure || w.sure else v.sure }

/-- The lengths of repeated texts. -/
def times (w : Width) (c : Count) : Width :=
  if c.max == some 0 then zero
  else ⟨w.min * c.min, do return (← w.max) * (← c.max), w.sure⟩

end Width

mutual

/-- The lengths of the texts a pattern matches; `fuel` bounds the nesting with calls. -/
def Syntax.width (x : Context) : Nat → Syntax → Option Width
  | 0, _ => none
  | fuel + 1, s =>
    match s with
    | .empty => some .zero
    | .chars _ => some ⟨1, some 1, true⟩
    | .folded codes => some ⟨1, some codes.length, true⟩
    | .place _ => some ⟨0, some 0, false⟩
    | .keep => some ⟨0, some 0, false⟩
    | .present .. => some .zero
    | .reference groups _ _ level => do
      if level.isSome then return ⟨0, none, false⟩
      let ws ← groups.mapM fun n => do Syntax.width x fuel (← x.bodies.lookup n)
      match ws with
      | [] => none
      | w :: rest =>
        let w := rest.foldl Width.orElse w
        return { w with sure := w.sure && w.isFixed }
    | .call target => do Syntax.width x fuel (← x.bodies.lookup (← x.target? target))
    | .group _ _ body => Syntax.width x fuel body
    | .sequence parts => Syntax.widthSum x fuel parts
    | .choice choices => Syntax.widthOr x fuel choices
    | .repeated body count => do return (← Syntax.width x fuel body).times count
    | .atomic body => Syntax.width x fuel body
    | .ahead .. => some ⟨0, some 0, false⟩
    | .behind .. => some ⟨0, some 0, false⟩
    | .conditional test yes no => do
      let t ← Syntax.width x fuel test
      let y ← Syntax.width x fuel yes
      let n ← Syntax.width x fuel no
      return (t.add y).orElse n
    | .absent _ body => do return ⟨(← Syntax.width x fuel body).min, none, false⟩
    | .cut _ => some ⟨0, none, false⟩
    | .uncut => some ⟨0, some 0, false⟩

/-- The lengths of texts that match patterns in a row. -/
def Syntax.widthSum (x : Context) : Nat → List Syntax → Option Width
  | 0, _ => none
  | _, [] => some .zero
  | fuel + 1, s :: rest => do
    return (← Syntax.width x fuel s).add (← Syntax.widthSum x fuel rest)

/-- The lengths of texts that match one of some patterns. -/
def Syntax.widthOr (x : Context) : Nat → List Syntax → Option Width
  | 0, _ => none
  | _, [] => none
  | fuel + 1, [s] => Syntax.width x fuel s
  | fuel + 1, s :: rest => do
    return (← Syntax.width x fuel s).orElse (← Syntax.widthOr x fuel rest)

end

/-! ## Looking back -/

/-- A pattern of one piece: its repetition at the far end of a look back need not go
beyond its least count. -/
def Syntax.isPiece : Syntax → Bool
  | .chars _ => true
  | .folded _ => true
  | .reference .. => true
  | .sequence parts => parts.all fun
    | .chars set => set.ranges.size == 1 && set.ranges.all fun (lo, hi) => lo == hi
    | _ => false
  | _ => false

/-- A repetition of one piece, cut down to its least count; `none` if it is none. -/
def Syntax.cutRepetition? : Syntax → Option (Syntax × Bool)
  | .repeated body count =>
    if body.isPiece then
      some (.repeated body { count with max := some count.min }, count.min == 0)
    else none
  | _ => none

/-- Parts in a row with the repetitions at their start cut down, as far as nothing is
left of them. -/
def Syntax.cutParts : List Syntax → List Syntax
  | [] => []
  | s :: rest =>
    match s.cutRepetition? with
    | some (s, true) => s :: cutParts rest
    | some (s, false) => s :: rest
    | none => s :: rest

/-- A pattern with the repetitions at its start cut down: more of what is repeated may
stand before, whatever it is. -/
def Syntax.cutFarEnd : Syntax → Syntax
  | .sequence parts => .sequence (cutParts parts)
  | s => (s.cutRepetition?.map (·.1)).getD s

/-- A pattern to look back for, with the far end of each choice cut down. -/
def Syntax.cutBehind : Syntax → Syntax
  | .choice choices => .choice (choices.map Syntax.cutFarEnd)
  | s => s.cutFarEnd

/-- The bound on nesting that widths are computed with. -/
def widthFuel : Nat := 4096

/-- The lengths to look back: for each choice to look for, its length; `none` when a
length is not fixed, and no choice at all when the empty text will do. -/
def behindChoices (x : Context) (body : Syntax) : Option (List (Nat × Syntax)) := do
  let one (s : Syntax) : Option (List (Nat × Syntax)) := do
    let s := s.cutBehind
    let w ← s.width x widthFuel
    let used := s.groups.any fun g => x.referenced.contains g.1
    if w.min = 0 && w.sure && !used then return []
    if w.isFixed then return [(w.min, s)]
    none
  match one body with
  | some found => return found
  | none =>
    match body.cutBehind with
    | .choice choices =>
      let found ← choices.mapM one
      if found.any List.isEmpty then return [] else return found.flatten
    | _ => none

/-! ## Calls without end -/

/-- How a pattern comes back to a group: perhaps, surely, and surely before any text. -/
structure Recurrence where
  may : Bool := false
  must : Bool := false
  endless : Bool := false

mutual

/-- How a pattern comes back to the group `home`, where `head` tells that no text has
been taken yet and `seen` are the groups under way; `fuel` bounds the nesting. -/
def Syntax.recurrence (x : Context) (home : Nat) :
    Nat → List Nat → Bool → Syntax → Recurrence
  | 0, _, _, _ => {}
  | fuel + 1, seen, head, s =>
    let enter (n : Nat) (body : Syntax) : Recurrence :=
      if seen.contains n then {}
      else if n = home then { may := true, must := true, endless := head }
      else Syntax.recurrence x home fuel (n :: seen) head body
    match s with
    | .group n _ body => enter n body
    | .call target =>
      match x.target? target with
      | some n => (x.bodies.lookup n).elim {} (enter n)
      | none => {}
    | .sequence parts => Syntax.recurrenceAll x home fuel seen head parts
    | .choice choices => Syntax.recurrenceAny x home fuel seen head choices
    | .repeated body count =>
      if count.max == some 0 then {}
      else
        let r := Syntax.recurrence x home fuel seen head body
        if count.min = 0 then { r with must := false } else r
    | .atomic body => Syntax.recurrence x home fuel seen head body
    | .ahead _ body => Syntax.recurrence x home fuel seen head body
    | .behind _ body => Syntax.recurrence x home fuel seen head body
    | .absent stop body =>
      let s := Syntax.recurrence x home fuel seen head stop
      let r := Syntax.recurrence x home fuel seen head body
      { r with may := s.may || r.may, endless := s.endless || r.endless }
    | .cut stop => { Syntax.recurrence x home fuel seen head stop with must := false }
    | .conditional test yes no =>
      let t := Syntax.recurrenceAll x home fuel seen head [test, yes]
      let n := Syntax.recurrence x home fuel seen head no
      { may := t.may || n.may, must := t.must && n.must, endless := t.endless || n.endless }
    | _ => {}

/-- How patterns in a row come back to a group. -/
def Syntax.recurrenceAll (x : Context) (home : Nat) :
    Nat → List Nat → Bool → List Syntax → Recurrence
  | 0, _, _, _ => {}
  | _, _, _, [] => {}
  | fuel + 1, seen, head, s :: rest =>
    let r := Syntax.recurrence x home fuel seen head s
    let head := head && ((s.width x widthFuel).all (·.min == 0))
    let t := Syntax.recurrenceAll x home fuel seen head rest
    { may := r.may || t.may, must := r.must || t.must, endless := r.endless || t.endless }

/-- How one of some patterns comes back to a group. -/
def Syntax.recurrenceAny (x : Context) (home : Nat) :
    Nat → List Nat → Bool → List Syntax → Recurrence
  | 0, _, _, _ => {}
  | _, _, _, [] => { must := true }
  | fuel + 1, seen, head, s :: rest =>
    let r := Syntax.recurrence x home fuel seen head s
    let t := Syntax.recurrenceAny x home fuel seen head rest
    { may := r.may || t.may, must := r.must && t.must, endless := r.endless || t.endless }

end

/-- A group calls itself without end. -/
def Context.isEndless (x : Context) (n : Nat) (body : Syntax) : Bool :=
  let r := body.recurrence x n widthFuel [] true
  r.must || r.endless

/-! ## Expressions -/

mutual

/-- The expression a pattern stands for; `fuel` bounds the nesting. -/
def Syntax.toExpr (x : Context) : Nat → Syntax → Option Expr
  | 0, _ => none
  | fuel + 1, s =>
    match s with
    | .empty => some .empty
    | .chars set => some (.chars set)
    | .folded codes => some (.folded codes)
    | .place p => some (.place p)
    | .keep => some .keep
    | .reference groups _ anyCase level =>
      if groups.all (· ≤ x.total) then some (.reference groups anyCase level) else none
    | .present groups _ level =>
      if groups.all (· ≤ x.total) then some (.present groups level) else none
    | .call target => (x.target? target).map .call
    | .group n _ body => do
      let e ← Syntax.toExpr x fuel body
      return if x.called.contains n then .called (.group n e) else .group n e
    | .sequence parts => (Syntax.toExprs x fuel parts).map .sequence
    | .choice choices => (Syntax.toExprs x fuel choices).map .choice
    | .repeated body count => do
      let e ← Syntax.toExpr x fuel body
      let watched := (body.groups.map (·.1)).filter x.referenced.contains
      return .repeated e (Loop.ofCount count e.size watched)
    | .atomic body => (Syntax.toExpr x fuel body).map .atomic
    | .ahead negated body => (Syntax.toExpr x fuel body).map (.ahead negated)
    | .behind negated body => do
      -- Nothing that is looked for in vain can be captured.
      if negated && !body.groups.isEmpty then none
      let found ← behindChoices x body
      let es ← Syntax.toExprs x fuel (found.map (·.2))
      let looks := (found.map (·.1)).zipWith (fun width e => Expr.behind negated width e) es
      match looks with
      | [] => return if negated then .never else .empty
      | [look] => return look
      | looks => return if negated then .sequence looks else .choice looks
    | .conditional test yes no => do
      let t ← Syntax.toExpr x fuel test
      let y ← Syntax.toExpr x fuel yes
      let n ← Syntax.toExpr x fuel no
      return .conditional t y n
    | .absent stop body => do
      return .absent (← Syntax.toExpr x fuel stop) (← Syntax.toExpr x fuel body)
    | .cut stop => (Syntax.toExpr x fuel stop).map .cut
    | .uncut => some .uncut

/-- The expressions patterns in a row stand for. -/
def Syntax.toExprs (x : Context) : Nat → List Syntax → Option (List Expr)
  | 0, _ => none
  | _, [] => some []
  | fuel + 1, s :: rest => do
    let e ← Syntax.toExpr x fuel s
    let es ← Syntax.toExprs x fuel rest
    return e :: es

end

/-- A whole pattern ready to be searched for. -/
structure Program where
  /-- The expressions of the groups, of which group 0 is the whole pattern. -/
  groups : Array Expr
  /-- No match is shorter. -/
  minLength : Nat
  deriving Inhabited

/-- The program of a pattern as read. -/
def meaning? (s : Syntax) (c : Cursor) : Option Program := do
  let (s, names, total) ←
    if c.names.isEmpty then pure (s, c.names, c.groups)
    else
      let f := namedNumbering c.names
      let s ← s.renumber f
      pure (s, c.names.filterMap fun (name, n) => (f n).map fun n => (name, n), c.names.length)
  let bodies := (0, s) :: s.groups
  let x : Context := { total, names, bodies, referenced := s.references }
  let x := { x with called := s.calls.filterMap x.target? }
  if bodies.any fun (n, body) => x.isEndless n body then none
  let fuel := 4096
  let exprs ← (List.range (total + 1)).mapM fun n => do
    let e ← Syntax.toExpr x fuel (← bodies.lookup n)
    return if n = 0 then e else Expr.group n e
  return { groups := exprs.toArray, minLength := (s.width x widthFuel).elim 0 Width.min }

end LogProblems.Pattern.Extended
