import LogProblems.Document.Yaml.Scalar
import LogProblems.Document.Yaml.Tag

/-!
# Layout of YAML

The tokens of a text follow from its characters and from its columns.  Blocks start where
something stands further right than the block around it, and end where something stands
further left.  Brackets suspend this.

A key on one line is recognised only by the colon after it, when its tokens are already
there; so every place where such a key may start is remembered, one for each open bracket
and one outside, and the colon puts the missing tokens in front of the remembered place.
-/

set_option autoImplicit false

namespace LogProblems.Document.Yaml

/-- A place where a key on one line may have started. -/
structure KeyStart where
  /-- Nothing but a key can stand here. -/
  required : Bool
  place : Place
  /-- The number of tokens before it. -/
  tokens : Nat
  deriving DecidableEq, Repr, Inhabited

/-- A text read up to a place. -/
structure Layout where
  /-- The tokens so far. -/
  tokens : Array Token := #[]
  cursor : Cursor
  /-- The columns of the open blocks, innermost first. -/
  columns : List Nat := []
  /-- The last place where a key may have started within the innermost bracket. -/
  key : Option KeyStart := none
  /-- The same within each bracket around it; there is one for each open bracket. -/
  outerKeys : List (Option KeyStart) := []
  /-- A key on one line, or an item of a block, may start here. -/
  keyAllowed : Bool := true
  deriving Inhabited

namespace Layout

/-- How far apart a key and its colon may be, in characters. -/
def keyLimit : Nat := 1024

/-- Some bracket is open. -/
def inFlow (l : Layout) : Bool :=
  !l.outerKeys.isEmpty

/-- The least column for the content of the innermost block. -/
def margin (l : Layout) : Nat :=
  match l.columns with
  | [] => 0
  | column :: _ => column + 1

/-- Adds a token that ends at a cursor. -/
def push (l : Layout) (t : Token) (c : Cursor) : Layout :=
  { l with tokens := l.tokens.push t, cursor := c }

/-! ## Keys -/

/-- Gives up a place where a key may have started, unless a key is required there. -/
def giveUp? : Option KeyStart → Option (Option KeyStart)
  | some k => if k.required then none else some none
  | none => some none

/-- Gives up the last place where a key may have started. -/
def dropKey? (l : Layout) : Option Layout := do
  return { l with key := ← giveUp? l.key }

/-- Remembers that a key may start here. -/
def saveKey? (l : Layout) : Option Layout :=
  if l.keyAllowed then do
    let l ← l.dropKey?
    let place := l.cursor.place
    let required := !l.inFlow && l.columns.head? == some place.column
    return { l with key := some { required, place, tokens := l.tokens.size } }
  else some l

/-- Gives up a place that is on an earlier line or too far back. -/
def checkKey? (here : Place) (key : Option KeyStart) : Option (Option KeyStart) :=
  match key with
  | some k =>
    if k.place.line < here.line || k.place.index + keyLimit < here.index then giveUp? key
    else some key
  | none => some none

/-- Gives up all places where the key would be too long by now. -/
def checkKeys? (l : Layout) : Option Layout := do
  let here := l.cursor.place
  return { l with
    key := ← checkKey? here l.key
    outerKeys := ← l.outerKeys.mapM (checkKey? here) }

/-! ## Blocks -/

/-- Ends the blocks that stand further right than a column; without one, all blocks. -/
def endBlocks (l : Layout) (column : Option Nat) : Layout :=
  if l.inFlow then l
  else
    let further (c : Nat) : Bool := column.all (· < c)
    let ended := l.columns.takeWhile further
    { l with
      tokens := ended.foldl (fun ts _ => ts.push .blockEnd) l.tokens
      columns := l.columns.drop ended.length }

/-- Starts a block at a column that stands further right than the innermost block; its
token goes in front of the token with a number. -/
def startBlock (l : Layout) (column : Nat) (t : Token) (index : Nat) : Layout :=
  if l.inFlow || column < l.margin then l
  else { l with tokens := l.tokens.insertIdxIfInBounds index t, columns := column :: l.columns }

/-! ## Tokens -/

/-- Passes gaps, comments and line ends; `fuel` bounds the lines.  A tab is a gap only
where no block can start. -/
def skipGaps (l : Layout) : Nat → Layout
  | 0 => l
  | fuel + 1 =>
    let c := l.cursor
    let c := if c.place.index = 0 && c.rest.head? == some (Char.ofNat 0xFEFF) then c.drop 1 else c
    let tabs := l.inFlow || !l.keyAllowed
    let c := c.dropWhile fun x => x == ' ' || (tabs && x == '\t')
    let c := if c.rest.head? == some '#' then c.dropWhile (!isLineEnd ·) else c
    if !c.rest.isEmpty && atLineEnd c.rest then
      skipGaps { l with cursor := c.dropLineEnd, keyAllowed := l.keyAllowed || !l.inFlow } fuel
    else { l with cursor := c }

/-- Adds a token of one character. -/
def indicator (l : Layout) (t : Token) : Layout :=
  l.push t (l.cursor.drop 1)

/-- Reads a directive. -/
def directive? (l : Layout) : Option Layout := do
  let l ← (l.endBlocks none).dropKey?
  let (t, c) ← Yaml.directive? l.cursor
  return { l with keyAllowed := false }.push t c

/-- Reads a marker between documents. -/
def marker? (l : Layout) (t : Token) : Option Layout := do
  let l ← (l.endBlocks none).dropKey?
  return { l with keyAllowed := false }.push t (l.cursor.drop 3)

/-- Reads an opening bracket. -/
def openBracket? (l : Layout) (t : Token) : Option Layout := do
  let l ← l.saveKey?
  return { l with key := none, outerKeys := l.key :: l.outerKeys, keyAllowed := true }.indicator t

/-- Reads a closing bracket. -/
def closeBracket? (l : Layout) (t : Token) : Option Layout := do
  let l ← l.dropKey?
  let (key, outerKeys) :=
    match l.outerKeys with
    | [] => (l.key, [])
    | key :: outer => (key, outer)
  return { l with key, outerKeys, keyAllowed := false }.indicator t

/-- Reads a comma. -/
def comma? (l : Layout) : Option Layout := do
  let l ← l.dropKey?
  return { l with keyAllowed := true }.indicator .comma

/-- The start of a block at this place, where one may start. -/
def blockHere? (l : Layout) (t : Token) : Option Layout :=
  if l.inFlow then some l
  else if l.keyAllowed then some (l.startBlock l.cursor.place.column t l.tokens.size)
  else none

/-- Reads the indicator of an item. -/
def item? (l : Layout) : Option Layout := do
  let l ← (← l.blockHere? .blockList).dropKey?
  return { l with keyAllowed := true }.indicator .item

/-- Reads the indicator of a key. -/
def key? (l : Layout) : Option Layout := do
  let l ← (← l.blockHere? .blockRecord).dropKey?
  return { l with keyAllowed := !l.inFlow }.indicator .key

/-- Reads the indicator of a value. -/
def value? (l : Layout) : Option Layout :=
  match l.key with
  | some k =>
    let l := { l with tokens := l.tokens.insertIdxIfInBounds k.tokens .key }
    let l := l.startBlock k.place.column .blockRecord k.tokens
    some ({ l with key := none, keyAllowed := false }.indicator .value)
  | none => do
    let l ← l.blockHere? .blockRecord
    return { l with keyAllowed := !l.inFlow }.indicator .value

/-- Reads an anchor or an alias. -/
def named? (l : Layout) (t : String → Token) : Option Layout := do
  let l ← l.saveKey?
  let (name, c) ← anchorName? (l.cursor.drop 1)
  return { l with keyAllowed := false }.push (t name) c

/-- Reads a tag. -/
def tag? (l : Layout) : Option Layout := do
  let l ← l.saveKey?
  let (t, c) ← tagToken? l.cursor
  if atGap c.rest || (l.inFlow && c.rest.head? == some ',') then
    return { l with keyAllowed := false }.push t c
  else none

/-- Reads a block scalar. -/
def blockScalar? (l : Layout) (style : Style) : Option Layout := do
  let l ← l.dropKey?
  let (text, c) ← block? (style == .folded) l.margin (l.cursor.drop 1)
  return { l with keyAllowed := true }.push (.scalar style text) c

/-- Reads a quoted scalar. -/
def quotedScalar? (l : Layout) (style : Style) : Option Layout := do
  let l ← l.saveKey?
  let c := l.cursor.drop 1
  let (d, c) ←
    if style == .singleQuoted then singleQuotedFrom {} c.place c.rest
    else doubleQuotedFrom {} c.place c.rest
  return { l with keyAllowed := false }.push (.scalar style d.textWithGap) c

/-- Reads a plain scalar; behind one that reached the end of its line a key may start. -/
def plainScalar? (l : Layout) : Option Layout := do
  let l ← l.saveKey?
  let (d, c) ← plainFrom l.inFlow l.margin {} l.cursor.place l.cursor.rest
  return { l with keyAllowed := d.gap.broken }.push (.scalar .plain d.text) c

/-- A character that cannot start a plain scalar. -/
def isIndicator (c : Char) : Bool :=
  isFlowIndicator c || "-?:#&*!|>'\"%@\x60".toList.contains c

/-- Reads the token that starts with `c`, which is no gap. -/
def token? (l : Layout) (c : Char) (rest : List Char) : Option Layout :=
  let atStart := l.cursor.place.column == 0
  if atStart && c == '%' then l.directive?
  else if atStart && atMarker (c :: rest) then
    l.marker? (if c == '-' then .documentStart else .documentEnd)
  else if c == '[' then l.openBracket? .flowList
  else if c == '{' then l.openBracket? .flowRecord
  else if c == ']' then l.closeBracket? .flowListEnd
  else if c == '}' then l.closeBracket? .flowRecordEnd
  else if c == ',' then l.comma?
  else if c == '-' && atGap rest then l.item?
  else if c == '?' && (l.inFlow || atGap rest) then l.key?
  else if c == ':' && (l.inFlow || atGap rest) then l.value?
  else if c == '*' then l.named? .alias
  else if c == '&' then l.named? .anchor
  else if c == '!' then l.tag?
  else if c == '|' && !l.inFlow then l.blockScalar? .literal
  else if c == '>' && !l.inFlow then l.blockScalar? .folded
  else if c == '\'' then l.quotedScalar? .singleQuoted
  else if c == '"' then l.quotedScalar? .doubleQuoted
  else if !isIndicator c && !isGap c then l.plainScalar?
  else if c == '-' || (!l.inFlow && (c == '?' || c == ':')) then l.plainScalar?
  else none

/-- Ends all blocks at the end of the text. -/
def finish? (l : Layout) : Option (Array Token) := do
  return (← (l.endBlocks none).dropKey?).tokens

/-- Reads all tokens; `fuel` bounds their number. -/
def tokensFrom? (l : Layout) : Nat → Option (Array Token)
  | 0 => none
  | fuel + 1 => do
    let l ← (l.skipGaps (fuel + 1)).checkKeys?
    let l := l.endBlocks (some l.cursor.place.column)
    match l.cursor.rest with
    | [] => l.finish?
    | c :: rest => (← l.token? c rest).tokensFrom? fuel

end Layout

/-- The tokens of a text. -/
def tokens? (s : String) : Option (List Token) := do
  let cs := s.toList
  if cs.all isPrintable then
    let l : Layout := { cursor := { place := {}, rest := cs } }
    return (← l.tokensFrom? (cs.length + 1)).toList
  else none

end LogProblems.Document.Yaml
