import LogProblems.Pattern.Regular

/-!
# The size of an automaton

An expression with large or nested counts stands for an automaton that is too large to be
of use, and is refused.  The measure is the memory of an automaton over octets of UTF-8
that has one state for each octet of a character, choice, place and end of a group; a
state that branches needs more, and a repeated expression is copied.
-/

set_option autoImplicit false

namespace LogProblems.Pattern

open LogProblems.Unicode

namespace Footprint

/-! ## Sets of characters -/

/-- The octets that may stand at each place of some encoded characters. -/
abbrev OctetRanges : Type := List (Nat × Nat)

/-- The ranges of trailing octets of the numbers from `lo` to `hi` in `places` digits of
six bits, each in front of the ranges behind it. -/
def trailing : Nat → Nat → Nat → List OctetRanges
  | 0, _, _ => [[]]
  | places + 1, lo, hi =>
    let block := 1 <<< (6 * places)
    let digit (d : Nat) : Nat := 0x80 + d
    let first := lo / block
    let last := hi / block
    if first = last then
      (trailing places (lo % block) (hi % block)).map ((digit first, digit last) :: ·)
    else
      let startsWhole := lo % block = 0
      let endsWhole := hi % block = block - 1
      let head :=
        if startsWhole then []
        else (trailing places (lo % block) (block - 1)).map ((digit first, digit first) :: ·)
      let tail :=
        if endsWhole then []
        else (trailing places 0 (hi % block)).map ((digit last, digit last) :: ·)
      let low := if startsWhole then first else first + 1
      let high := if endsWhole then last + 1 else last
      let middle :=
        if low < high then
          [(digit low, digit (high - 1)) :: List.replicate places (0x80, 0xBF)]
        else []
      head ++ middle ++ tail

/-- The code points that are encoded in one octet, in two, in three and in four; the
surrogates are not encoded. -/
def lengthClasses : List (Nat × Nat × Nat) :=
  [(0, 0x0, 0x7F), (1, 0x80, 0x7FF), (2, 0x800, 0xD7FF), (2, 0xE000, 0xFFFF),
    (3, 0x10000, 0x10FFFF)]

/-- The encodings of the characters of an interval. -/
def encodings (lo hi : Nat) : List OctetRanges :=
  lengthClasses.flatMap fun (places, least, greatest) =>
    let lo := max lo least
    let hi := min hi greatest
    if lo ≤ hi then trailing (places + 1) lo hi else []

/-- The number of entries that two lists have in common before they differ. -/
def sharedPrefix : OctetRanges → OctetRanges → Nat
  | a :: as, b :: bs => if a = b then sharedPrefix as bs + 1 else 0
  | _, _ => 0

/-- The number of octets of encodings in a row, where one is counted only as far as it
differs from the one before. -/
def distinctOctets (before : OctetRanges) : List OctetRanges → Nat
  | [] => 0
  | e :: rest => e.length - sharedPrefix before e + distinctOctets e rest

/-- The size of a state. -/
def stateSize : Nat := 32

/-- The size of a target in a state that branches. -/
def targetSize : Nat := 4

/-- The size of a range in a state that looks at an octet. -/
def rangeSize : Nat := 8

/-- The size of the states for one character of a set. -/
def setBytes (s : CharSet) : Nat :=
  match s.ranges.toList with
  | [] => stateSize
  | [(lo, hi)] =>
    if lo = hi then (encodings lo hi).foldl (fun n e => n + e.length) 0 * stateSize
    else bytesOf [(lo, hi)]
  | ranges => bytesOf ranges
where
  /-- The size of the states for one character of some intervals. -/
  bytesOf (ranges : List (Nat × Nat)) : Nat :=
    if ranges.all (·.2 < 0x80) then 2 * stateSize + ranges.length * rangeSize
    else
      let all := ranges.flatMap fun (lo, hi) => encodings lo hi
      (2 + distinctOctets [] all) * stateSize + all.length * targetSize

/-- More than the states for one character of any set need. -/
def generousSetBytes : Nat := 200000

end Footprint

namespace Regular

open Footprint

mutual

/-- The size of the automaton of an expression, given the sizes for sets. -/
def bytes (ofSet : CharSet → Nat) : Regular → Nat
  | .empty => stateSize
  | .chars set => ofSet set
  | .look _ => stateSize
  | .capture _ body => bytes ofSet body + 2 * stateSize
  | .concat parts => bytesSum ofSet parts
  | .alternation choices => bytesChoices ofSet choices + 2 * stateSize
  | .repeated body min max _ =>
    let copy := bytes ofSet body
    let choice := stateSize + 2 * targetSize
    match max with
    | none =>
      if min = 0 then copy + (if body.consumes then choice else 2 * choice + stateSize)
      else min * copy + choice
    | some max => min * copy + (max - min) * (copy + choice) + (if min < max then stateSize else 0)

/-- The size for expressions in a row. -/
def bytesSum (ofSet : CharSet → Nat) : List Regular → Nat
  | [] => 0
  | r :: rest => bytes ofSet r + bytesSum ofSet rest

/-- The size for expressions side by side. -/
def bytesChoices (ofSet : CharSet → Nat) : List Regular → Nat
  | [] => 0
  | r :: rest => bytes ofSet r + targetSize + bytesChoices ofSet rest

end

/-- The greatest size of an automaton. -/
def bytesLimit : Nat := 10 <<< 20

/-- The size of the states around a whole expression: its group, its end, and the search
for its start. -/
def frameBytes : Nat := 168

/-- The automaton of an expression is not too large.  Sets are measured only where their
number matters. -/
def fits (r : Regular) : Bool :=
  r.bytes (fun _ => generousSetBytes) + frameBytes ≤ bytesLimit
    || r.bytes setBytes + frameBytes ≤ bytesLimit

end Regular

end LogProblems.Pattern
