/-!
# Sets of characters

A set of characters is a sequence of intervals of code points, in order, neither
touching nor overlapping.  `CharSet.ofRanges` brings any intervals into that form,
so the operations may join intervals freely.

Tables of the Unicode standard are those of its version 15.0.  They are written as text:
hexadecimal code points and intervals between blanks, as in `41-5A 61-7A AA`.
-/

set_option autoImplicit false

namespace LogProblems.Unicode

/-- The greatest code point. -/
def maxCode : Nat := 0x10FFFF

/-- A set of characters as ordered intervals of code points. -/
structure CharSet where
  ranges : Array (Nat × Nat)
  deriving DecidableEq, Repr, Inhabited

namespace CharSet

/-- Joins an interval to those after it that touch or overlap; they are given in order
of their starts. -/
def coalesceFrom (lo hi : Nat) : List (Nat × Nat) → List (Nat × Nat)
  | [] => [(lo, hi)]
  | (lo', hi') :: rest =>
    if lo' ≤ hi + 1 then coalesceFrom lo (max hi hi') rest
    else (lo, hi) :: coalesceFrom lo' hi' rest

/-- Joins intervals that touch or overlap; they are given in order of their starts. -/
def coalesce : List (Nat × Nat) → List (Nat × Nat)
  | [] => []
  | (lo, hi) :: rest => coalesceFrom lo hi rest

/-- The set of some intervals, in any order. -/
def ofRanges (ranges : List (Nat × Nat)) : CharSet :=
  let sorted := (ranges.filter fun r => r.1 ≤ r.2).mergeSort fun a b => a.1 ≤ b.1
  { ranges := (coalesce sorted).toArray }

/-- The set without characters. -/
def empty : CharSet := ⟨#[]⟩

/-- The set of one code point. -/
def single (n : Nat) : CharSet := ⟨#[(n, n)]⟩

/-- The set of the code points from `lo` to `hi`. -/
def range (lo hi : Nat) : CharSet := ofRanges [(lo, hi)]

/-- All characters. -/
def full : CharSet := ⟨#[(0, maxCode)]⟩

/-- The code point lies in one of the intervals from place `lo` up to place `hi`;
at most `fuel` halvings are made. -/
def searchIn (ranges : Array (Nat × Nat)) (n : Nat) : Nat → Nat → Nat → Bool
  | 0, _, _ => false
  | fuel + 1, lo, hi =>
    if hi ≤ lo then false
    else
      let mid := (lo + hi) / 2
      match ranges[mid]? with
      | none => false
      | some (a, b) =>
        if n < a then searchIn ranges n fuel lo mid
        else if b < n then searchIn ranges n fuel (mid + 1) hi
        else true

/-- The set holds a code point. -/
def containsCode (s : CharSet) (n : Nat) : Bool :=
  searchIn s.ranges n (s.ranges.size + 1) 0 s.ranges.size

/-- The set holds a character. -/
def contains (s : CharSet) (c : Char) : Bool :=
  s.containsCode c.toNat

/-- The set holds no character. -/
def isEmpty (s : CharSet) : Bool :=
  s.ranges.isEmpty

/-- The characters of either set. -/
def union (s t : CharSet) : CharSet :=
  ofRanges (s.ranges.toList ++ t.ranges.toList)

/-- The gaps between intervals, from `next` on. -/
def gapsFrom (next : Nat) : List (Nat × Nat) → List (Nat × Nat)
  | [] => if next ≤ maxCode then [(next, maxCode)] else []
  | (lo, hi) :: rest =>
    if next < lo then (next, lo - 1) :: gapsFrom (hi + 1) rest else gapsFrom (hi + 1) rest

/-- The characters outside a set. -/
def complement (s : CharSet) : CharSet :=
  { ranges := (gapsFrom 0 s.ranges.toList).toArray }

/-- The characters of both sets. -/
def inter (s t : CharSet) : CharSet :=
  (s.complement.union t.complement).complement

/-- The characters of the first set that are not in the second. -/
def diff (s t : CharSet) : CharSet :=
  s.inter t.complement

/-- The characters of exactly one of the sets. -/
def symmDiff (s t : CharSet) : CharSet :=
  (s.union t).diff (s.inter t)

/-- The value of a hexadecimal digit in upper case. -/
def hexValue (c : Char) : Nat :=
  if c ≤ '9' then c.toNat - '0'.toNat else c.toNat - 'A'.toNat + 10

/-- Reads the intervals of a table, where `start` is the start of an interval whose
end is being read and `n` the number being read. -/
def readRanges (start : Option Nat) (n : Nat) : List Char → List (Nat × Nat)
  | [] => [(start.getD n, n)]
  | c :: rest =>
    if c == '-' then readRanges (some n) 0 rest
    else if c == ' ' then (start.getD n, n) :: readRanges none 0 rest
    else readRanges start (16 * n + hexValue c) rest

/-- The set that the lines of a table describe. -/
def ofTable (lines : List String) : CharSet :=
  ofRanges (lines.flatMap fun line => readRanges none 0 line.toList)

/-- The set that one line describes. -/
def ofLine (line : String) : CharSet :=
  ofTable [line]

end CharSet

/-- A name without its blanks, hyphens and underscores, in lower case. -/
def looseName (name : String) : String :=
  String.ofList ((name.toList.filter fun c => c != ' ' && c != '_' && c != '-').map Char.toLower)

/-- Looks a loosely spelled name up among rows that start with their names. -/
def lookupTable (rows : List (List String × List String)) (loose : String) :
    Option (List String) :=
  (rows.find? fun row => row.1.any fun name => looseName name == loose).map (·.2)

end LogProblems.Unicode
