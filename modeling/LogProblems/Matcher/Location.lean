import LogProblems.Diagnostic.Record
import LogProblems.Pattern.Basic
import LogProblems.Text.Blank
import LogProblems.Text.Integer

/-!
# Where problems lie

Captured positions are gathered as signed 64-bit numbers, so that counting from
zero may reach below zero before the positions are clamped.  The position
`lineEnd` means "to the end" and is no number to count down from.

* `clampPosition_nonneg` and `clampPosition_le`: a clamped position lies between
  zero and `lineEnd`.
-/

set_option autoImplicit false

namespace LogProblems.Matcher

open LogProblems.Text

/-- Groups that hold the four ends of a range one by one. -/
structure DiscreteGroups where
  line : Option Nat := none
  endLine : Option Nat := none
  column : Option Nat := none
  endColumn : Option Nat := none
  deriving DecidableEq, Repr, Inhabited

/-- How a step extracts its location. -/
inductive LocationCapture where
  /-- Problems concern the whole file; there is no location. -/
  | wholeFile
  /-- One group holds one, two to three, or four and more numbers. -/
  | combined (group : Nat)
  /-- Each end has a group of its own, or none. -/
  | discrete (groups : DiscreteGroups)
  deriving DecidableEq, Repr, Inhabited

/-- From where captured positions are counted. -/
structure Indexing where
  /-- Lines and columns count from zero. -/
  whole : Bool := false
  /-- Lines count from zero. -/
  line : Bool := false
  /-- Columns count from zero. -/
  column : Bool := false
  deriving DecidableEq, Repr, Inhabited

namespace Indexing

/-- Captured lines count from one. -/
def lowersLines (i : Indexing) : Bool :=
  !i.whole && !i.line

/-- Captured columns count from one. -/
def lowersColumns (i : Indexing) : Bool :=
  !i.whole && !i.column

end Indexing

/-- The range of a problem under way. -/
structure WorkingRange where
  startLine : Int := 1
  startChar : Int := 1
  endLine : Int := 1
  endChar : Int := 1
  deriving DecidableEq, Repr, Inhabited

/-- The position before `v`.  The end of a line stays, and as positions are 64 bits
wide, the greatest one comes before the least. -/
def oneDown (v : Int) : Int :=
  if v = lineEnd then v
  else if v = int64Min then int64Max
  else v - 1

/-- A captured position, counted from zero afterwards. -/
def lower (counted : Bool) (v : Int) : Int :=
  if counted then oneDown v else v

/-- A position between zero and `lineEnd`. -/
def clampPosition (v : Int) : Int :=
  max 0 (min v lineEnd)

/-- Clamped positions are natural. -/
theorem clampPosition_nonneg (v : Int) : 0 ≤ clampPosition v := by
  simp only [clampPosition]; omega

/-- Clamped positions do not pass `lineEnd`. -/
theorem clampPosition_le (v : Int) : clampPosition v ≤ lineEnd := by
  simp only [clampPosition, lineEnd]; omega

namespace WorkingRange

/-- An empty range at the start of a line of the log. -/
def anchoredAt (line : Int) : WorkingRange :=
  { startLine := wrapInt64 line, startChar := 0, endLine := wrapInt64 line, endChar := 0 }

/-- Every end between zero and `lineEnd`. -/
def clamp (r : WorkingRange) : WorkingRange :=
  { startLine := clampPosition r.startLine
    startChar := clampPosition r.startChar
    endLine := clampPosition r.endLine
    endChar := clampPosition r.endChar }

/-- The finished range. -/
def toRange (r : WorkingRange) : Range :=
  { startLine := (clampPosition r.startLine).toNat
    startChar := (clampPosition r.startChar).toNat
    endLine := (clampPosition r.endLine).toNat
    endChar := (clampPosition r.endChar).toNat }

/-- Captured ends counted from zero. -/
def lowered (indexing : Indexing) (r : WorkingRange) : WorkingRange :=
  { startLine := lower indexing.lowersLines r.startLine
    startChar := lower indexing.lowersColumns r.startChar
    endLine := lower indexing.lowersLines r.endLine
    endChar := lower indexing.lowersColumns r.endChar }

end WorkingRange

/-! ## Combined locations -/

/-- The maximal runs of ASCII digits; `run` holds the digits of the run under way,
last first. -/
def digitRunsFrom (run : List Char) : List Char → List (List Char)
  | [] => if run.isEmpty then [] else [run.reverse]
  | c :: rest =>
    if isDigit c then digitRunsFrom (c :: run) rest
    else if run.isEmpty then digitRunsFrom [] rest
    else run.reverse :: digitRunsFrom [] rest

/-- The maximal runs of ASCII digits in a text. -/
def digitRuns (text : String) : List (List Char) :=
  digitRunsFrom [] text.toList

/-- The number a run writes; a run too long for 64 bits means the end. -/
def runValue (run : List Char) : Int :=
  (readDigits? false run).getD lineEnd

/-- The range a text of numbers means: no number the first character, one number
a line, two or three a span of lines, four or more the four ends. -/
def combinedRange (text : String) : WorkingRange :=
  match (digitRuns text).map runValue with
  | [] => {}
  | [line] => { startLine := line, startChar := 1, endLine := line, endChar := lineEnd }
  | [first, last] => { startLine := first, startChar := 1, endLine := last, endChar := lineEnd }
  | [first, last, _] =>
    { startLine := first, startChar := 1, endLine := last, endChar := lineEnd }
  | startLine :: startChar :: endLine :: endChar :: _ => { startLine, startChar, endLine, endChar }

/-! ## Resolution -/

/-- A captured position: a signed number between blanks. -/
def readPosition? (text : String) : Option Int :=
  readInt64? (trimChars text.toList)

/-- The position in a group that took part and holds a number. -/
def positionIn (groups : Groups) (group : Option Nat) : Option Int :=
  (group.bind groups.get?).bind readPosition?

/-- The ends that a step gives one by one.  A line alone means the whole line; an
end line and columns refine it. -/
def resolveDiscrete (d : DiscreteGroups) (groups : Groups) (indexing : Indexing)
    (r : WorkingRange) : WorkingRange :=
  let r :=
    match positionIn groups d.line with
    | some v =>
      { r with
        startLine := lower indexing.lowersLines v
        endLine := lower indexing.lowersLines v
        endChar := lineEnd }
    | none => r
  let r :=
    match positionIn groups d.endLine with
    | some v => { r with endLine := lower indexing.lowersLines v }
    | none => r
  let r :=
    match positionIn groups d.column with
    | some v => { r with startChar := lower indexing.lowersColumns v }
    | none => r
  match positionIn groups d.endColumn with
  | some v => { r with endChar := lower indexing.lowersColumns v }
  | none => r

/-- The range after a step; every end is clamped unless problems concern whole
files. -/
def resolveLocation (capture : LocationCapture) (groups : Groups) (indexing : Indexing)
    (r : WorkingRange) : WorkingRange :=
  match capture with
  | .wholeFile => r
  | .combined group =>
    ((combinedRange ((groups.get? group).getD "1,1,1,1")).lowered indexing).clamp
  | .discrete d => (resolveDiscrete d groups indexing r).clamp

end LogProblems.Matcher
