import LogProblems.Unicode.CharSet
import LogProblems.Unicode.Category
import LogProblems.Unicode.Property

/-!
# Regular expressions with captures

What a pattern in the standard notation means, once its notation is read: character
sets, places between characters, groups, alternatives and repetitions.  Of two
matches at one place the earlier alternative is preferred, and the longer
repetition if it is greedy, the shorter one if it is lazy.
-/

set_option autoImplicit false

namespace LogProblems.Pattern

open LogProblems.Unicode

/-- The characters of words. -/
def wordChars : CharSet :=
  .ofRanges ((Property.named "Alphabetic").ranges.toList
    ++ (Category.ofShortNames ["Mc", "Me", "Mn", "Nd", "Pc"]).ranges.toList
    ++ (Property.named "Join_Control").ranges.toList)

/-- The decimal digits of all scripts. -/
def digitChars : CharSet := Category.ofShortName "Nd"

/-- The white space of all scripts. -/
def spaceChars : CharSet := Property.named "White_Space"

/-- The ASCII characters of words. -/
def asciiWordChars : CharSet := .ofLine "30-39 41-5A 5F 61-7A"

/-- A condition on a place between two characters. -/
inductive Look where
  | textStart
  | textEnd
  /-- At the start of the text or after a line feed. -/
  | lineStart
  /-- At the end of the text or before a line feed. -/
  | lineEnd
  /-- Like `lineStart`, where a carriage return or both together end a line too. -/
  | crlfStart
  | crlfEnd
  /-- Between a character of the set and one outside it. -/
  | boundary (word : CharSet)
  | noBoundary (word : CharSet)
  | wordStart (word : CharSet)
  | wordEnd (word : CharSet)
  /-- Not after a character of the set. -/
  | wordStartHalf (word : CharSet)
  /-- Not before a character of the set. -/
  | wordEndHalf (word : CharSet)
  deriving DecidableEq, Repr, Inhabited

/-- The condition holds between two characters; `none` stands for an end of the text. -/
def Look.holds (l : Look) (before after : Option Char) : Bool :=
  let isWord (word : CharSet) (c : Option Char) : Bool := c.any word.contains
  match l with
  | textStart => before.isNone
  | textEnd => after.isNone
  | lineStart => before.isNone || before == some '\n'
  | lineEnd => after.isNone || after == some '\n'
  | crlfStart =>
    before.isNone || before == some '\n' || (before == some '\r' && after != some '\n')
  | crlfEnd =>
    after.isNone || after == some '\r' || (after == some '\n' && before != some '\r')
  | boundary w => isWord w before != isWord w after
  | noBoundary w => isWord w before == isWord w after
  | wordStart w => !isWord w before && isWord w after
  | wordEnd w => isWord w before && !isWord w after
  | wordStartHalf w => !isWord w before
  | wordEndHalf w => !isWord w after

/-- A regular expression with captures. -/
inductive Regular where
  /-- The empty text. -/
  | empty
  /-- One character of a set. -/
  | chars (set : CharSet)
  | look (l : Look)
  /-- At least `min` times, and at most `max` times if there is a bound. -/
  | repeated (body : Regular) (min : Nat) (max : Option Nat) (greedy : Bool)
  | capture (group : Nat) (body : Regular)
  | concat (parts : List Regular)
  | alternation (choices : List Regular)
  deriving Inhabited

namespace Regular

mutual

/-- The least length of a matching text, or `none` when no text matches. -/
def minLength : Regular → Option Nat
  | .empty => some 0
  | .chars set => if set.isEmpty then none else some 1
  | .look _ => some 0
  | .repeated body min _ _ => if min = 0 then some 0 else (minLength body).map (· * min)
  | .capture _ body => minLength body
  | .concat parts => minLengthSum parts
  | .alternation choices => minLengthMin choices

/-- The least length of a text that matches all parts in a row. -/
def minLengthSum : List Regular → Option Nat
  | [] => some 0
  | p :: rest =>
    match minLength p, minLengthSum rest with
    | some a, some b => some (a + b)
    | _, _ => none

/-- The least length of a text that matches some choice. -/
def minLengthMin : List Regular → Option Nat
  | [] => none
  | c :: rest =>
    match minLength c, minLengthMin rest with
    | some a, some b => some (min a b)
    | some a, none => some a
    | none, b => b

end

/-- Every matching text has a character. -/
def consumes (r : Regular) : Bool :=
  r.minLength.any (0 < ·)

mutual

/-- Only the empty text can match. -/
def onlyEmpty : Regular → Bool
  | .empty => true
  | .chars _ => false
  | .look _ => true
  | .repeated body _ max _ => max == some 0 || onlyEmpty body
  | .capture _ body => onlyEmpty body
  | .concat parts => onlyEmptyAll parts
  | .alternation choices => onlyEmptyAll choices

/-- Of each of the expressions only the empty text can match. -/
def onlyEmptyAll : List Regular → Bool
  | [] => true
  | r :: rest => onlyEmpty r && onlyEmptyAll rest

end

/-- A repetition.  Repeating what matches only the empty text says nothing after the
first time, a repetition of no times is the empty text, and one of exactly one time
is its body. -/
def repeat' (body : Regular) (min : Nat) (max : Option Nat) (greedy : Bool) : Regular :=
  let (min, max) :=
    if body.onlyEmpty then (Nat.min min 1, some ((max.map (Nat.min · 1)).getD 1)) else (min, max)
  if max = some 0 then .empty
  else if min = 1 && max == some 1 then body
  else .repeated body min max greedy

end Regular

end LogProblems.Pattern
