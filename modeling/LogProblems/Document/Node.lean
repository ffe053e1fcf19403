import LogProblems.Document.Value

/-!
# Documents as written

A `Node` is a place of a document together with everything its readers may ask
of it.  Where a reader names the kind it wants, the spelling counts: an unquoted
`5` can be the text "5" in one format and only a number in another.  Where any
kind will do, the node is read freely, as a `Value`.

Some nodes can be passed over but not read freely: a text that is no Unicode
text, a number beyond every range, nesting beyond the format's limit, a node
that contains itself, a node that carries a private mark.
-/

set_option autoImplicit false

namespace LogProblems.Document

/-- Whether a place that may be left out is left out. -/
inductive Presence where
  /-- The value is there. -/
  | present
  /-- The value is left out. -/
  | absent
  /-- The place is neither. -/
  | refused
  deriving DecidableEq, Repr, Inhabited

/-- A node without parts, as each kind of reader sees it. -/
structure Leaf where
  /-- Read where any kind will do. -/
  free : Option Value
  /-- Read where a text is wanted. -/
  text : Option String
  /-- Read where a truth value is wanted. -/
  flag : Option Bool
  /-- Read where the value may be left out. -/
  presence : Presence
  /-- Stands for an empty list or an empty record. -/
  blank : Bool
  deriving Repr, Inhabited

/-- A place of a document. -/
inductive Node where
  | leaf (l : Leaf)
  /-- A list; a `positional` one may stand for a record. -/
  | list (items : List Node) (positional : Bool)
  | record (entries : List (Node × Node))
  /-- A node with a private mark, which only readers that want a kind look through. -/
  | marked (n : Node)
  /-- A node that can only be passed over. -/
  | unreadable
  deriving Repr, Inhabited

namespace Node

mutual

/-- Reads a node where any kind of value will do. -/
def free? : Node → Option Value
  | .leaf l => l.free
  | .list items _ => (freeItems? items).map .list
  | .record entries => (freeEntries? entries).map .record
  | .marked _ => none
  | .unreadable => none

/-- Reads the items of a list freely. -/
def freeItems? : List Node → Option (List Value)
  | [] => some []
  | n :: rest =>
    match free? n, freeItems? rest with
    | some v, some vs => some (v :: vs)
    | _, _ => none

/-- Reads the entries of a record freely. -/
def freeEntries? : List (Node × Node) → Option (List (Value × Value))
  | [] => some []
  | (key, n) :: rest =>
    match free? key, free? n, freeEntries? rest with
    | some k, some v, some vs => some ((k, v) :: vs)
    | _, _, _ => none

end

/-- The node under its private marks. -/
def unmarked : Node → Node
  | .marked n => n.unmarked
  | n => n

/-- A text is wanted. -/
def text? (n : Node) : Option String :=
  match n.unmarked with
  | .leaf l => l.text
  | _ => none

/-- A truth value is wanted. -/
def bool? (n : Node) : Option Bool :=
  match n.unmarked with
  | .leaf l => l.flag
  | _ => none

/-- A list is wanted. -/
def items? (n : Node) : Option (List Node) :=
  match n.unmarked with
  | .leaf l => if l.blank then some [] else none
  | .list items _ => some items
  | _ => none

/-- A record with free names is wanted. -/
def entries? (n : Node) : Option (List (String × Node)) :=
  match n.unmarked with
  | .leaf l => if l.blank then some [] else none
  | .record entries => entries.mapM fun (key, v) => do return (← key.text?, v)
  | _ => none

/-- A record with known field names is wanted: one slot for each name. -/
def fields? (names : List String) (n : Node) : Option (List (Option Node)) :=
  match n.unmarked with
  | .leaf l => if l.blank then some (List.replicate names.length none) else none
  | .record entries => do
    let placed ← entries.mapM fun (key, v) => do return (names.idxOf? (← key.text?), v)
    slots names.length placed
  | .list items positional => if positional then Value.positional names.length items else none
  | _ => none

/-- Reads a field that may be left out. -/
def optional {α : Type} (read : Node → Option α) : Option Node → Option (Option α)
  | none => some none
  | some (.leaf l) =>
    match l.presence with
    | .present => (read (.leaf l)).map some
    | .absent => some none
    | .refused => none
  | some n => (read n).map some

end Node

end LogProblems.Document
