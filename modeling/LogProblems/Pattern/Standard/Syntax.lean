/-!
# The standard notation

A pattern in the standard notation as it is written: groups and flags, bracketed
sets with nested sets and set operators, counted repetitions, and escapes.
-/

set_option autoImplicit false

namespace LogProblems.Pattern.Standard

/-- A flag that a group or a place in the pattern can set or clear. -/
inductive Flag where
  /-- `i`: letters match in any case. -/
  | anyCase
  /-- `m`: `^` and `$` match at the ends of lines. -/
  | multiLine
  /-- `s`: the dot matches line feeds too. -/
  | dotAll
  /-- `U`: greedy repetitions become lazy and lazy ones greedy. -/
  | swapGreed
  /-- `u`: classes are those of Unicode. -/
  | unicode
  /-- `R`: a carriage return ends a line too. -/
  | crlf
  /-- `x`: blanks and comments in the pattern are passed over. -/
  | verbose
  deriving DecidableEq, Repr, Inhabited

/-- A flag and whether it is set or cleared. -/
structure FlagChange where
  flag : Flag
  on : Bool
  deriving DecidableEq, Repr, Inhabited

/-- A literal character; `octet` marks one written as `\xNN`. -/
structure Literal where
  char : Char
  octet : Bool
  deriving DecidableEq, Repr, Inhabited

/-- A condition on a place. -/
inductive Anchor where
  | caret
  | dollar
  | textStart
  | textEnd
  | wordBoundary
  | noWordBoundary
  | wordStart
  | wordEnd
  | wordStartHalf
  | wordEndHalf
  deriving DecidableEq, Repr, Inhabited

/-- A class with a one-letter escape. -/
inductive ShortClass where
  | digit
  | space
  | word
  deriving DecidableEq, Repr, Inhabited

/-- A class of Unicode, by the name or the property and value that is written. -/
inductive UnicodeQuery where
  | name (name : String)
  | value (property value : String)
  deriving DecidableEq, Repr, Inhabited

/-- An operator between the members of a bracketed set. -/
inductive SetOp where
  | inter
  | diff
  | symmDiff
  deriving DecidableEq, Repr, Inhabited

/-- The members of a bracketed set. -/
inductive SetItem where
  | empty
  | literal (l : Literal)
  | range (lo hi : Literal)
  /-- `[:name:]`, with the table of its characters. -/
  | ascii (table : String) (negated : Bool)
  | short (c : ShortClass) (negated : Bool)
  | unicode (q : UnicodeQuery) (negated : Bool)
  | bracketed (negated : Bool) (set : SetItem)
  | union (items : List SetItem)
  | op (op : SetOp) (lhs rhs : SetItem)
  deriving Repr, Inhabited

/-- How a group is opened. -/
inductive GroupKind where
  | capture (index : Nat)
  | flags (changes : List FlagChange)
  deriving DecidableEq, Repr, Inhabited

/-- A pattern as written. -/
inductive Syntax where
  | empty
  /-- Flags for the rest of the enclosing group. -/
  | flags (changes : List FlagChange)
  | literal (l : Literal)
  | dot
  | anchor (a : Anchor)
  | short (c : ShortClass) (negated : Bool)
  | unicode (q : UnicodeQuery) (negated : Bool)
  | bracketed (negated : Bool) (set : SetItem)
  | repeated (body : Syntax) (min : Nat) (max : Option Nat) (greedy : Bool)
  | group (kind : GroupKind) (body : Syntax)
  | alternation (choices : List Syntax)
  | concat (parts : List Syntax)
  deriving Repr, Inhabited

/-- Members in a row. -/
def SetItem.ofItems : List SetItem → SetItem
  | [] => .empty
  | [item] => item
  | items => .union items

/-- Parts in a row. -/
def Syntax.ofParts : List Syntax → Syntax
  | [] => .empty
  | [part] => part
  | parts => .concat parts

/-- Choices side by side. -/
def Syntax.ofChoices : List Syntax → Syntax
  | [] => .empty
  | [choice] => choice
  | choices => .alternation choices

mutual

/-- How deep a set is nested. -/
def SetItem.depth : SetItem → Nat
  | .bracketed _ set => set.depth + 1
  | .union items => SetItem.depthAll items + 1
  | .op _ lhs rhs => Nat.max lhs.depth rhs.depth + 1
  | _ => 0

/-- How deep the deepest of some sets is nested. -/
def SetItem.depthAll : List SetItem → Nat
  | [] => 0
  | item :: rest => Nat.max item.depth (SetItem.depthAll rest)

end

mutual

/-- How deep a pattern is nested. -/
def Syntax.depth : Syntax → Nat
  | .bracketed _ set => set.depth + 1
  | .repeated body _ _ _ => body.depth + 1
  | .group _ body => body.depth + 1
  | .alternation choices => Syntax.depthAll choices + 1
  | .concat parts => Syntax.depthAll parts + 1
  | _ => 0

/-- How deep the deepest of some patterns is nested. -/
def Syntax.depthAll : List Syntax → Nat
  | [] => 0
  | s :: rest => Nat.max s.depth (Syntax.depthAll rest)

end

end LogProblems.Pattern.Standard
