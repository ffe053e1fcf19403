/-!
# Places in a YAML text

A YAML text is read with an eye on columns.  A `Place` counts characters and lines; a
`Cursor` is a place together with the text from there on.

A line break is CR, LF, both in this order, or one of three Unicode line ends.  In a
scalar it stands for a line feed, except that the two separators of Unicode stand for
themselves.
-/

set_option autoImplicit false

namespace LogProblems.Document.Yaml

/-! ## Characters -/

/-- A character that a YAML text may hold as such. -/
def isPrintable (c : Char) : Bool :=
  let n := c.toNat
  n == 0x09 || n == 0x0A || n == 0x0D || (0x20 ≤ n && n ≤ 0x7E) || n == 0x85
    || (0xA0 ≤ n && n ≤ 0xD7FF) || (0xE000 ≤ n && n ≤ 0xFFFD) || 0x10000 ≤ n

/-- A space or a tab. -/
def isGap (c : Char) : Bool :=
  c == ' ' || c == '\t'

/-- What a line end of one character stands for in a scalar. -/
def lineEnd? (c : Char) : Option Char :=
  let n := c.toNat
  if n == 0x0A || n == 0x0D || n == 0x85 then some '\n'
  else if n == 0x2028 || n == 0x2029 then some c
  else none

/-- A character that ends a line. -/
def isLineEnd (c : Char) : Bool :=
  (lineEnd? c).isSome

/-- A letter, a digit, `_` or `-`. -/
def isWordChar (c : Char) : Bool :=
  c.isAlphanum || c == '_' || c == '-'

/-- The text is at an end or starts with a line end. -/
def atLineEnd : List Char → Bool
  | [] => true
  | c :: _ => isLineEnd c

/-- The text is at an end or starts with a gap or a line end. -/
def atGap : List Char → Bool
  | [] => true
  | c :: _ => isGap c || isLineEnd c

/-- A marker between documents: three dashes or three points by themselves. -/
def atMarker : List Char → Bool
  | '-' :: '-' :: '-' :: rest => atGap rest
  | '.' :: '.' :: '.' :: rest => atGap rest
  | _ => false

/-! ## Places -/

/-- A place in a text, counted from zero. -/
structure Place where
  /-- Characters before it. -/
  index : Nat := 0
  /-- Line ends before it. -/
  line : Nat := 0
  /-- Characters before it on its line. -/
  column : Nat := 0
  deriving DecidableEq, Repr, Inhabited

/-- The place some characters further on the same line. -/
def Place.after (p : Place) (count : Nat) : Place :=
  { p with index := p.index + count, column := p.column + count }

/-- The start of the next line, behind a line end of `count` characters. -/
def Place.nextLine (p : Place) (count : Nat) : Place :=
  { index := p.index + count, line := p.line + 1, column := 0 }

/-- A place and the text from there on. -/
structure Cursor where
  place : Place
  rest : List Char
  deriving Repr, Inhabited

namespace Cursor

/-- Passes characters of one line. -/
def drop (c : Cursor) (count : Nat) : Cursor :=
  { place := c.place.after count, rest := c.rest.drop count }

/-- Splits off the characters of one line that have a property. -/
def span (c : Cursor) (p : Char → Bool) : List Char × Cursor :=
  let taken := c.rest.takeWhile p
  (taken, c.drop taken.length)

/-- Passes the characters of one line that have a property. -/
def dropWhile (c : Cursor) (p : Char → Bool) : Cursor :=
  (c.span p).2

/-- Passes one character, which must be `char`. -/
def expect? (c : Cursor) (char : Char) : Option Cursor :=
  match c.rest with
  | x :: _ => if x == char then some (c.drop 1) else none
  | [] => none

/-- Passes a line end, if there is one. -/
def dropLineEnd (c : Cursor) : Cursor :=
  match c.rest with
  | '\r' :: '\n' :: rest => { place := c.place.nextLine 2, rest }
  | x :: rest => if isLineEnd x then { place := c.place.nextLine 1, rest } else c
  | [] => c

/-- Passes what is left of a line: gaps, a comment and the line end, and nothing else. -/
def endLine? (c : Cursor) : Option Cursor :=
  let c := c.dropWhile isGap
  let c :=
    match c.rest with
    | '#' :: _ => c.dropWhile (!isLineEnd ·)
    | _ => c
  if atLineEnd c.rest then some c.dropLineEnd else none

end Cursor

end LogProblems.Document.Yaml
