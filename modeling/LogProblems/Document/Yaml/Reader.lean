import LogProblems.Document.Yaml.Meaning

/-!
# Reading YAML

`read` takes a whole text and gives the node of its only document.

An alias stands for the node with its number.  Where following aliases would never end or
would take more than `aliasFactor` steps for each part of the document, an alias can only
be passed over; so can a node nested more than `nestingLimit` deep, counted through
aliases.
-/

set_option autoImplicit false

namespace LogProblems.Document.Yaml

/-- How deep a node may be nested and still be read. -/
def nestingLimit : Nat := 128

/-- How many aliases may be followed, for each part of a document. -/
def aliasFactor : Nat := 100

namespace Tree

mutual

/-- The number of parts: scalars, aliases, and the two ends of lists and records. -/
def size : Tree → Nat
  | .scalar _ _ _ => 1
  | .alias _ => 1
  | .list _ items => 2 + sizeItems items
  | .record _ entries => 2 + sizeEntries entries

/-- The number of parts of some items. -/
def sizeItems : List Tree → Nat
  | [] => 0
  | t :: rest => t.size + sizeItems rest

/-- The number of parts of some entries. -/
def sizeEntries : List (Tree × Tree) → Nat
  | [] => 0
  | (k, v) :: rest => k.size + v.size + sizeEntries rest

end

mutual

/-- The numbers of the aliases in a node. -/
def aliases : Tree → List Nat
  | .scalar _ _ _ => []
  | .alias n => [n]
  | .list _ items => aliasesOfItems items
  | .record _ entries => aliasesOfEntries entries

/-- The numbers of the aliases in some items. -/
def aliasesOfItems : List Tree → List Nat
  | [] => []
  | t :: rest => t.aliases ++ aliasesOfItems rest

/-- The numbers of the aliases in some entries. -/
def aliasesOfEntries : List (Tree × Tree) → List Nat
  | [] => []
  | (k, v) :: rest => k.aliases ++ v.aliases ++ aliasesOfEntries rest

end

/-- A node with its anchor, if it has one. -/
def anchored (p : Properties) (t : Tree) : List (Nat × Tree) :=
  (p.anchor.map (·, t)).toList

mutual

/-- The nodes with anchors, in the order of the text. -/
def anchors : Tree → List (Nat × Tree)
  | .scalar p style text => anchored p (.scalar p style text)
  | .alias _ => []
  | .list p items => anchored p (.list p items) ++ anchorsOfItems items
  | .record p entries => anchored p (.record p entries) ++ anchorsOfEntries entries

/-- The nodes with anchors in some items. -/
def anchorsOfItems : List Tree → List (Nat × Tree)
  | [] => []
  | t :: rest => t.anchors ++ anchorsOfItems rest

/-- The nodes with anchors in some entries. -/
def anchorsOfEntries : List (Tree × Tree) → List (Nat × Tree)
  | [] => []
  | (k, v) :: rest => k.anchors ++ v.anchors ++ anchorsOfEntries rest

end

end Tree

/-- A node that aliases stand for. -/
structure Target where
  tree : Tree
  /-- How many aliases are followed when it is read, unless these are too many. -/
  steps : Option Nat
  deriving Inhabited

/-- The nodes that aliases stand for, by their numbers. -/
abbrev Targets : Type := Array (Option Target)

namespace Targets

/-- The nodes with anchors; of two with one number the later counts. -/
def ofTree (t : Tree) : Targets :=
  let anchors := t.anchors
  let count := anchors.foldl (fun n (i, _) => max n (i + 1)) 0
  anchors.foldl (fun ts (i, t) => ts.setIfInBounds i (some { tree := t, steps := none }))
    (Array.replicate count none)

/-- The number of steps for an alias, if it can be followed. -/
def steps? (ts : Targets) (limit number : Nat) : Option Nat := do
  let target ← (← ts[number]?)
  let n ← target.steps
  if n < limit then some (n + 1) else none

/-- Counts steps once more, from those counted before. -/
def recount (ts : Targets) (limit : Nat) : Targets :=
  ts.map fun target => target.map fun target =>
    { target with
      steps := target.tree.aliases.foldlM (fun n a => do return n + (← ts.steps? limit a)) 0 }

/-- Counts the steps of all targets; a target that contains itself never gets a number. -/
def count (ts : Targets) (limit : Nat) : Targets :=
  (List.range (ts.size + 1)).foldl (fun ts _ => ts.recount limit) ts

/-- The node that an alias stands for, if it can be followed. -/
def follow? (ts : Targets) (limit number : Nat) : Option Tree := do
  let _ ← ts.steps? limit number
  return (← (← ts[number]?)).tree

end Targets

/-- The node of a tree with `room` for nesting. -/
def Tree.toNode (ts : Targets) (limit : Nat) : Nat → Tree → Node
  | room, t =>
    let t :=
      match t with
      | .alias n => (ts.follow? limit n).getD t
      | t => t
    match room, t with
    | _, .scalar p style text => scalarNode p style text
    | room + 1, .list p items => mark p (.list (items.map (toNode ts limit room)) false)
    | room + 1, .record p entries =>
      mark p (.record (entries.map fun (k, v) => (toNode ts limit room k, toNode ts limit room v)))
    | 0, _ => .unreadable
    | _, .alias _ => .unreadable

/-- Reads a whole text as one document. -/
def read (s : String) : Option Node := do
  match ← Tree.ofTokens? (← tokens? s) with
  | some t =>
    let limit := aliasFactor * t.size
    return t.toNode ((Targets.ofTree t).count limit) limit nestingLimit
  | none => return voidNode

end LogProblems.Document.Yaml
