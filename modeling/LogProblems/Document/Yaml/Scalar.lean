import LogProblems.Document.Yaml.Token
import LogProblems.Text.Integer

/-!
# Scalars of YAML

Scalars in one or more lines: plain, between quotes, and in blocks.  In plain and quoted
scalars the gaps between words are kept within a line; across lines they are folded: one
line end becomes a space, and of several the first is dropped.
-/

set_option autoImplicit false

namespace LogProblems.Document.Yaml

open LogProblems.Text

/-! ## Gaps -/

/-- What was seen since the last word of a scalar; lists are held last first. -/
structure Gap where
  /-- Spaces and tabs before any line end. -/
  spaces : List Char := []
  /-- What the first line end stands for, unless it is escaped. -/
  first : Option Char := none
  /-- What the later line ends stand for. -/
  later : List Char := []
  /-- A line has ended. -/
  broken : Bool := false
  deriving Repr, Inhabited

namespace Gap

/-- Nothing was seen. -/
def isEmpty (g : Gap) : Bool :=
  g.spaces.isEmpty && !g.broken

/-- Adds a space or a tab, which counts only before the first line end. -/
def addSpace (g : Gap) (c : Char) : Gap :=
  if g.broken then g else { g with spaces := c :: g.spaces }

/-- Adds a line end that stands for `c`. -/
def addLineEnd (g : Gap) (c : Char) : Gap :=
  if g.broken then { g with later := c :: g.later }
  else { g with first := some c, broken := true }

/-- What the gap stands for between two words, last first. -/
def folded (g : Gap) : List Char :=
  if !g.broken then g.spaces
  else if g.first == some '\n' then (if g.later.isEmpty then [' '] else g.later)
  else g.later ++ g.first.toList

end Gap

/-- A scalar being read: its characters, last first, and the gap after them. -/
structure Draft where
  chars : List Char := []
  gap : Gap := {}
  deriving Repr, Inhabited

namespace Draft

/-- Adds a character of a word, after the gap before it. -/
def push (d : Draft) (c : Char) : Draft :=
  { chars := c :: (d.gap.folded ++ d.chars) }

/-- Adds a space or a tab. -/
def addSpace (d : Draft) (c : Char) : Draft :=
  { d with gap := d.gap.addSpace c }

/-- Adds a line end that stands for `c`. -/
def addLineEnd (d : Draft) (c : Char) : Draft :=
  { d with gap := d.gap.addLineEnd c }

/-- Adds an escaped line end, which keeps the spaces before it and stands for nothing. -/
def joinLine (d : Draft) : Draft :=
  { chars := d.gap.folded ++ d.chars, gap := { broken := true } }

/-- The text without the gap at its end. -/
def text (d : Draft) : String :=
  String.ofList d.chars.reverse

/-- The text with the gap at its end. -/
def textWithGap (d : Draft) : String :=
  String.ofList (d.gap.folded ++ d.chars).reverse

end Draft

/-! ## Plain scalars -/

/-- A character that separates the parts of a list or record in brackets. -/
def isFlowIndicator (c : Char) : Bool :=
  c == ',' || c == '[' || c == ']' || c == '{' || c == '}'

/-- A plain scalar ends before this character. -/
def endsPlain (inFlow : Bool) (c : Char) (rest : List Char) : Bool :=
  (c == ':' && atGap rest) || (inFlow && isFlowIndicator c)

/-- A colon that may not stand in a plain scalar within brackets. -/
def misplacedColon (inFlow : Bool) (c : Char) (rest : List Char) : Bool :=
  inFlow && c == ':' && (rest.head?.map fun n => isFlowIndicator n || n == '?') == some true

/-- Reads a plain scalar whose further lines start at `margin` or behind it. -/
def plainFrom (inFlow : Bool) (margin : Nat) (d : Draft) (p : Place) :
    List Char → Option (Draft × Cursor)
  | [] => some (d, ⟨p, []⟩)
  | '\r' :: '\n' :: rest => plainFrom inFlow margin (d.addLineEnd '\n') (p.nextLine 2) rest
  | c :: rest =>
    if isGap c then
      if c == '\t' && d.gap.broken && p.column < margin then none
      else plainFrom inFlow margin (d.addSpace c) (p.after 1) rest
    else
      match lineEnd? c with
      | some e => plainFrom inFlow margin (d.addLineEnd e) (p.nextLine 1) rest
      | none =>
        let stops := (!d.gap.isEmpty && ((!inFlow && p.column < margin) || c == '#'))
          || (p.column == 0 && atMarker (c :: rest))
        if stops then some (d, ⟨p, c :: rest⟩)
        else if misplacedColon inFlow c rest then none
        else if endsPlain inFlow c rest then some (d, ⟨p, c :: rest⟩)
        else plainFrom inFlow margin (d.push c) (p.after 1) rest

/-! ## Quoted scalars -/

/-- The character that a one-letter escape stands for. -/
def escapedChar? (c : Char) : Option Char :=
  match c with
  | '0' => some (Char.ofNat 0)
  | 'a' => some (Char.ofNat 0x07)
  | 'b' => some (Char.ofNat 0x08)
  | 't' => some '\t'
  | '\t' => some '\t'
  | 'n' => some '\n'
  | 'v' => some (Char.ofNat 0x0B)
  | 'f' => some (Char.ofNat 0x0C)
  | 'r' => some '\r'
  | 'e' => some (Char.ofNat 0x1B)
  | ' ' => some ' '
  | '"' => some '"'
  | '/' => some '/'
  | '\\' => some '\\'
  | 'N' => some (Char.ofNat 0x85)
  | '_' => some (Char.ofNat 0xA0)
  | 'L' => some (Char.ofNat 0x2028)
  | 'P' => some (Char.ofNat 0x2029)
  | _ => none

/-- The character whose code point has the given hexadecimal digits. -/
def hexChar? (digits : List Char) : Option Char := do
  let values ← digits.mapM hexDigit?
  let n := values.foldl (fun n d => 16 * n + d) 0
  if n < 0xD800 ∨ (0xDFFF < n ∧ n < 0x110000) then some (Char.ofNat n) else none

/-- Reads a scalar between single quotes, from behind the opening one. -/
def singleQuotedFrom (d : Draft) (p : Place) : List Char → Option (Draft × Cursor)
  | [] => none
  | '\r' :: '\n' :: rest => singleQuotedFrom (d.addLineEnd '\n') (p.nextLine 2) rest
  | '\'' :: '\'' :: rest =>
    singleQuotedFrom (d.push '\'') (p.after 2) rest
  | c :: rest =>
    if p.column == 0 && atMarker (c :: rest) then none
    else if c == '\'' then some (d, ⟨p.after 1, rest⟩)
    else if isGap c then singleQuotedFrom (d.addSpace c) (p.after 1) rest
    else
      match lineEnd? c with
      | some e => singleQuotedFrom (d.addLineEnd e) (p.nextLine 1) rest
      | none => singleQuotedFrom (d.push c) (p.after 1) rest

/-- Reads a scalar between double quotes, from behind the opening one. -/
def doubleQuotedFrom (d : Draft) (p : Place) : List Char → Option (Draft × Cursor)
  | [] => none
  | '\r' :: '\n' :: rest => doubleQuotedFrom (d.addLineEnd '\n') (p.nextLine 2) rest
  | '\\' :: '\r' :: '\n' :: rest => doubleQuotedFrom d.joinLine ((p.after 1).nextLine 2) rest
  | '\\' :: 'x' :: s :: t :: rest =>
    match hexChar? [s, t] with
    | some c => doubleQuotedFrom (d.push c) (p.after 4) rest
    | none => none
  | '\\' :: 'u' :: s :: t :: u :: v :: rest =>
    match hexChar? [s, t, u, v] with
    | some c => doubleQuotedFrom (d.push c) (p.after 6) rest
    | none => none
  | '\\' :: 'U' :: s :: t :: u :: v :: w :: x :: y :: z :: rest =>
    match hexChar? [s, t, u, v, w, x, y, z] with
    | some c => doubleQuotedFrom (d.push c) (p.after 10) rest
    | none => none
  | '\\' :: c :: rest =>
    if isLineEnd c then doubleQuotedFrom d.joinLine ((p.after 1).nextLine 1) rest
    else
      match escapedChar? c with
      | some e => doubleQuotedFrom (d.push e) (p.after 2) rest
      | none => none
  | c :: rest =>
    if c == '\\' || (p.column == 0 && atMarker (c :: rest)) then none
    else if c == '"' then some (d, ⟨p.after 1, rest⟩)
    else if isGap c then doubleQuotedFrom (d.addSpace c) (p.after 1) rest
    else
      match lineEnd? c with
      | some e => doubleQuotedFrom (d.addLineEnd e) (p.nextLine 1) rest
      | none => doubleQuotedFrom (d.push c) (p.after 1) rest

/-! ## Blocks -/

/-- What becomes of the line ends at the end of a block. -/
inductive Chomping where
  | strip
  /-- Only the first is kept. -/
  | clip
  | keep
  deriving DecidableEq, Repr, Inhabited

/-- The header of a block: its chomping and the indentation it states. -/
structure BlockHeader where
  chomping : Chomping := .clip
  indentation : Option Nat := none
  deriving DecidableEq, Repr, Inhabited

/-- Reads a chomping indicator, if there is one. -/
def chompingFrom (c : Cursor) : Option Chomping × Cursor :=
  match c.rest with
  | '+' :: _ => (some .keep, c.drop 1)
  | '-' :: _ => (some .strip, c.drop 1)
  | _ => (none, c)

/-- Reads an indentation indicator, if there is one; zero is refused. -/
def indentationFrom? (c : Cursor) : Option (Option Nat × Cursor) :=
  match c.rest with
  | '0' :: _ => none
  | x :: _ => if isDigit x then some (some (x.toNat - '0'.toNat), c.drop 1) else some (none, c)
  | [] => some (none, c)

/-- Reads the header of a block from behind its first indicator, with its line end. -/
def blockHeader? (c : Cursor) : Option (BlockHeader × Cursor) := do
  let (before, c) := chompingFrom c
  let (indentation, c) ← indentationFrom? c
  let (chomping, c) :=
    match before, indentation with
    | none, some _ => chompingFrom c
    | _, _ => (before, c)
  return ({ chomping := chomping.getD .clip, indentation }, ← c.endLine?)

/-- A block being read; lists are held last first. -/
structure BlockDraft where
  chars : List Char := []
  /-- What the end of the last line with content stands for. -/
  first : Option Char := none
  /-- What the ends of the empty lines after it stand for. -/
  later : List Char := []
  /-- The last line with content starts with a gap. -/
  startsWithGap : Bool := false
  deriving Repr, Inhabited

namespace BlockDraft

/-- Starts a line with content, of which `c` is the first character. -/
def startLine (d : BlockDraft) (folds : Bool) (c : Char) : BlockDraft :=
  let joins := folds && d.first == some '\n' && !d.startsWithGap && !isGap c
  let ends :=
    if joins then (if d.later.isEmpty then [' '] else d.later)
    else d.later ++ d.first.toList
  { chars := c :: (ends ++ d.chars), startsWithGap := isGap c }

/-- The finished text. -/
def finish (d : BlockDraft) (chomping : Chomping) : String :=
  let ends :=
    match chomping with
    | .strip => []
    | .clip => d.first.toList
    | .keep => d.later ++ d.first.toList
  String.ofList (ends ++ d.chars).reverse

end BlockDraft

/-- Passes empty lines and the indentation of the first line with content: what the line
ends stand for, last first, and the greatest column. -/
def leadingLines (later : List Char) (greatest : Nat) (p : Place) :
    List Char → Option (List Char × Nat × Cursor)
  | [] => some (later, max greatest p.column, ⟨p, []⟩)
  | '\r' :: '\n' :: rest =>
    leadingLines ('\n' :: later) (max greatest p.column) (p.nextLine 2) rest
  | c :: rest =>
    if c == ' ' then leadingLines later greatest (p.after 1) rest
    else if c == '\t' then none
    else
      match lineEnd? c with
      | some e => leadingLines (e :: later) (max greatest p.column) (p.nextLine 1) rest
      | none => some (later, max greatest p.column, ⟨p, c :: rest⟩)

/-- Reads the lines of a block that are indented by `indentation`. -/
def blockFrom (folds : Bool) (indentation : Nat) (inLine : Bool) (d : BlockDraft) (p : Place) :
    List Char → Option (BlockDraft × Cursor)
  | [] => some (d, ⟨p, []⟩)
  | '\r' :: '\n' :: rest =>
    let d := if inLine then { d with first := some '\n' } else { d with later := '\n' :: d.later }
    blockFrom folds indentation false d (p.nextLine 2) rest
  | c :: rest =>
    if !inLine && p.column < indentation && isGap c then
      if c == '\t' then none else blockFrom folds indentation false d (p.after 1) rest
    else
      match lineEnd? c with
      | some e =>
        let d := if inLine then { d with first := some e } else { d with later := e :: d.later }
        blockFrom folds indentation false d (p.nextLine 1) rest
      | none =>
        if inLine then
          blockFrom folds indentation true { d with chars := c :: d.chars } (p.after 1) rest
        else if p.column == indentation then
          blockFrom folds indentation true (d.startLine folds c) (p.after 1) rest
        else some (d, ⟨p, c :: rest⟩)

/-- Reads a block from behind its first indicator; `margin` is the least column at which
the content of the place may stand. -/
def block? (folds : Bool) (margin : Nat) (c : Cursor) : Option (String × Cursor) := do
  let (header, c) ← blockHeader? c
  let (later, indentation, c) ←
    match header.indentation with
    | some n => some (([] : List Char), (margin - 1) + n, c)
    | none =>
      (leadingLines [] 0 c.place c.rest).map fun (later, greatest, c) =>
        (later, max greatest (max margin 1), c)
  let (d, c) ← blockFrom folds indentation false { later } c.place c.rest
  return (d.finish header.chomping, c)

end LogProblems.Document.Yaml
