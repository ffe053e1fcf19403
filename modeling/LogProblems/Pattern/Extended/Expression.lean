import LogProblems.Pattern.Extended.Syntax

/-!
# Expressions of the extended notation

What a pattern in the extended notation stands for: groups have their final numbers,
look-behind knows how far to look back, and repetitions know where an empty round ends
them.
-/

set_option autoImplicit false

namespace LogProblems.Pattern.Extended

open LogProblems.Unicode

/-- A repetition.  A guarded round that takes no text is the last one. -/
structure Loop where
  min : Nat
  max : Option Nat
  greedy : Bool
  /-- The rounds up to `min` are guarded. -/
  guardsRequired : Bool
  /-- The rounds beyond `min` are guarded. -/
  guardsOptional : Bool
  /-- Groups of the body that are referred to; a round that changes one counts as
  taking text. -/
  watched : List Nat
  deriving DecidableEq, Repr, Inhabited

/-- What a pattern stands for. -/
inductive Expr where
  /-- One character of a set. -/
  | chars (set : CharSet)
  /-- A text whose characters fold to these code points. -/
  | folded (codes : List Nat)
  | place (p : Place)
  /-- The match starts here. -/
  | keep
  /-- The text of the first of some groups that took part; at a level, that of the group
  as it was so many calls further in. -/
  | reference (groups : List Nat) (anyCase : Bool) (level : Option Int)
  /-- One of some groups took part, perhaps at a level. -/
  | present (groups : List Nat) (level : Option Int)
  /-- A group's pattern again; group 0 is the whole pattern. -/
  | call (group : Nat)
  /-- A group that is called elsewhere; where it stands, it counts as called too. -/
  | called (body : Expr)
  | group (index : Nat) (body : Expr)
  | sequence (parts : List Expr)
  | choice (choices : List Expr)
  | repeated (body : Expr) (loop : Loop)
  /-- Only the preferred match of the body counts. -/
  | atomic (body : Expr)
  | ahead (negated : Bool) (body : Expr)
  /-- The body matches, or does not, from `width` characters back. -/
  | behind (negated : Bool) (width : Nat) (body : Expr)
  | conditional (test yes no : Expr)
  /-- The body, as if the text ended where `stop` first matches. -/
  | absent (stop body : Expr)
  /-- From here on the text ends where `stop` first matches. -/
  | cut (stop : Expr)
  /-- From here on the text ends at its end again. -/
  | uncut
  deriving Inhabited

namespace Expr

/-- What matches the empty text everywhere. -/
def empty : Expr := .sequence []

/-- What matches nowhere. -/
def never : Expr := .choice []

end Expr

/-- The number of steps that decides whether rounds of a repetition are written out one
by one. -/
def unrollLimit : Nat := 10

/-- A repetition of a body of the given size.  Few rounds of a small body are written
out one by one, and only those without an upper bound are guarded then. -/
def Loop.ofCount (count : Count) (bodySize : Nat) (watched : List Nat) : Loop :=
  let (required, optional) : Bool × Bool :=
    match count.max with
    | none =>
      if count.min = 1 && unrollLimit < bodySize then (true, true)
      else if count.min ≤ 1 || bodySize * count.min ≤ unrollLimit then (false, true)
      else (true, true)
    | some max =>
      if count.greedy && (max = 1 || (bodySize + 1) * max ≤ unrollLimit) then (false, false)
      else if !count.greedy && max = 1 && count.min = 0 then (false, false)
      else (true, true)
  { min := count.min, max := count.max, greedy := count.greedy
    guardsRequired := required, guardsOptional := optional, watched }

mutual

/-- The number of steps of an expression. -/
def Expr.size : Expr → Nat
  | .chars _ => 1
  | .folded codes => codes.length
  | .place _ => 1
  | .keep => 2
  | .reference .. => 1
  | .present .. => 1
  | .call _ => 1
  | .called body => body.size + 3
  | .group _ body => body.size + 2
  | .sequence parts => Expr.sizes parts
  | .choice choices => Expr.sizes choices + 2 * (choices.length - 1)
  | .repeated body loop =>
    let n := body.size
    let guarded := n + 2
    match loop.max with
    | none =>
      if loop.guardsRequired && loop.min = 1 then 1 + 1 + guarded + 1
      else if loop.guardsRequired then guarded + 2
      else n * loop.min + 1 + guarded + 1
    | some max =>
      if max = 0 then 0
      else if loop.guardsOptional then guarded + 2
      else if loop.greedy then n * loop.min + (n + 1) * (max - loop.min)
      else n + 2
  | .atomic body => body.size + 2
  | .ahead negated body => body.size + (if negated then 5 else 2)
  | .behind negated _ body => body.size + (if negated then 6 else 3)
  | .conditional test yes no => test.size + yes.size + no.size + 5
  | .absent stop body => stop.size + body.size + 16
  | .cut stop => stop.size + 11
  | .uncut => 5

/-- The number of steps of expressions in a row. -/
def Expr.sizes : List Expr → Nat
  | [] => 0
  | e :: rest => e.size + Expr.sizes rest

end

end LogProblems.Pattern.Extended
