import LogProblems.Document.Yaml.Layout

/-!
# Trees of YAML

A document of YAML is a tree of scalars, lists and records, in which an alias may stand
for a node with an anchor.  `Tree.ofTokens?` reads the only document of a text; an empty
text has none.

An anchor's number is the number of names that were used before it; an alias has the
number that its name has last got.  A name that is used again takes a new number without
adding a name, so that two anchors may come to share one number: then all aliases with it
stand for the later node.
-/

set_option autoImplicit false

namespace LogProblems.Document.Yaml

/-- A tag as far as it matters for what a node stands for. -/
inductive Tag where
  | bool
  | int
  | float
  | null
  /-- A private tag. -/
  | marking
  /-- A private tag that is no Unicode text. -/
  | hidden
  /-- Any other tag. -/
  | other
  deriving DecidableEq, Repr, Inhabited

/-- What the tags of the types of YAML start with. -/
def typePrefix : String :=
  "tag:yaml.org,2002:"

/-- The tag that some octets spell. -/
def Tag.ofOctets (octets : List UInt8) : Tag :=
  let text := (Text.Utf8.decode? octets).getD ""
  if octets.head? == some 0x21 then (if text.isEmpty then .hidden else .marking)
  else if text == typePrefix ++ "bool" then .bool
  else if text == typePrefix ++ "int" then .int
  else if text == typePrefix ++ "float" then .float
  else if text == typePrefix ++ "null" then .null
  else .other

/-- What may stand in front of a node. -/
structure Properties where
  anchor : Option Nat := none
  tag : Option Tag := none
  deriving DecidableEq, Repr, Inhabited

/-- A node of a document. -/
inductive Tree where
  | scalar (p : Properties) (style : Style) (text : String)
  | list (p : Properties) (items : List Tree)
  | record (p : Properties) (entries : List (Tree × Tree))
  | alias (number : Nat)
  deriving Repr, Inhabited

/-- What stands where nothing is written. -/
def Tree.empty (p : Properties) : Tree :=
  .scalar p .plain ""

/-! ## Reading tokens -/

/-- A document read up to a token. -/
structure Reading where
  tokens : List Token
  /-- What the handles of tags stand for. -/
  handles : List (String × List UInt8)
  /-- The names of anchors with their numbers, each name once. -/
  names : List (String × Nat) := []

/-- A reader of tokens. -/
abbrev Reader (α : Type) : Type := StateT Reading Option α

namespace Reader

/-- The next token. -/
def peek : Reader (Option Token) := do
  return (← get).tokens.head?

/-- Passes the next token. -/
def skip : Reader Unit :=
  modify fun r => { r with tokens := r.tokens.drop 1 }

/-- Passes the next token if it is `t`. -/
def accept (t : Token) : Reader Bool := do
  if (← peek) == some t then
    skip
    return true
  else return false

/-- Passes the next token, which must be `t`. -/
def expect (t : Token) : Reader Unit := do
  if !(← accept t) then failure

/-- The next token is one of these. -/
def isNext (ts : List Token) : Reader Bool := do
  match ← peek with
  | some t => return ts.contains t
  | none => return false

/-- Reads an anchor, if there is one. -/
def anchor? : Reader (Option String) := do
  match ← peek with
  | some (.anchor name) =>
    skip
    return some name
  | _ => return none

/-- Reads a tag, if there is one: its octets. -/
def tag? : Reader (Option (List UInt8)) := do
  match ← peek with
  | some (.tag handle suffix) =>
    skip
    if handle.isEmpty then return some suffix
    else
      match (← get).handles.lookup handle with
      | some meaning => return some (meaning ++ suffix)
      | none => failure
  | _ => return none

/-- Gives the name of an anchor a number. -/
def number (name : String) : Reader Nat := do
  let names := (← get).names
  let n := names.length
  modify fun r => { r with names := (name, n) :: names.filter (·.1 != name) }
  return n

/-- Reads an anchor and a tag in any order, if they are there. -/
def properties : Reader (Option String × Option (List UInt8)) := do
  match ← anchor? with
  | some name => return (some name, ← tag?)
  | none =>
    match ← tag? with
    | some octets => return (← anchor?, some octets)
    | none => return (none, none)

end Reader

open Reader

mutual

/-- Reads a node.  Blocks are possible unless in brackets; at a key or value of a block,
items may stand without a block of their own. -/
def node? : Nat → Bool → Bool → Reader Tree
  | 0, _, _ => failure
  | fuel + 1, inBlock, atKey => do
    if let some (.alias name) := ← peek then
      skip
      match (← get).names.lookup name with
      | some n => return .alias n
      | none => failure
    let (name, octets) ← properties
    let anchor ← match name with
      | some name => do pure (some (← number name))
      | none => pure none
    let p : Properties := { anchor, tag := octets.map Tag.ofOctets }
    match ← peek with
    | some .item =>
      if atKey then return .list p (← looseItems? fuel)
      else if anchor.isSome || octets.isSome then return .empty p
      else failure
    | some (.scalar style text) =>
      skip
      let p := if octets == some [0x21] then { p with tag := none } else p
      return .scalar p style text
    | some .flowList =>
      skip
      return .list p (← flowItems? fuel true)
    | some .flowRecord =>
      skip
      return .record p (← flowEntries? fuel true)
    | some .blockList =>
      if inBlock then
        skip
        return .list p (← blockItems? fuel)
      else if anchor.isSome || octets.isSome then return .empty p
      else failure
    | some .blockRecord =>
      if inBlock then
        skip
        return .record p (← blockEntries? fuel)
      else if anchor.isSome || octets.isSome then return .empty p
      else failure
    | _ => if anchor.isSome || octets.isSome then return .empty p else failure

/-- Reads a node unless one of some tokens follows. -/
def nodeUnless? : Nat → List Token → Bool → Bool → Reader Tree
  | 0, _, _, _ => failure
  | fuel + 1, ends, inBlock, atKey => do
    if ← isNext ends then return .empty {} else node? fuel inBlock atKey

/-- Reads the items of a block up to its end. -/
def blockItems? : Nat → Reader (List Tree)
  | 0 => failure
  | fuel + 1 => do
    if ← accept .item then
      let n ← nodeUnless? fuel [.item, .blockEnd] true false
      return n :: (← blockItems? fuel)
    else
      expect .blockEnd
      return []

/-- Reads items without a block of their own. -/
def looseItems? : Nat → Reader (List Tree)
  | 0 => failure
  | fuel + 1 => do
    if ← accept .item then
      let n ← nodeUnless? fuel [.item, .key, .value, .blockEnd] true false
      return n :: (← looseItems? fuel)
    else return []

/-- Reads the entries of a block up to its end. -/
def blockEntries? : Nat → Reader (List (Tree × Tree))
  | 0 => failure
  | fuel + 1 => do
    let ends : List Token := [.key, .value, .blockEnd]
    if ← accept .key then
      let k ← nodeUnless? fuel ends true true
      let v ← if ← accept .value then nodeUnless? fuel ends true true else pure (.empty {})
      return (k, v) :: (← blockEntries? fuel)
    else
      expect .blockEnd
      return []

/-- Reads the items of a list in brackets; every item but the first follows a comma. -/
def flowItems? : Nat → Bool → Reader (List Tree)
  | 0, _ => failure
  | fuel + 1, isFirst => do
    if ← accept .flowListEnd then return []
    if !isFirst then
      expect .comma
      if ← accept .flowListEnd then return []
    if ← accept .key then
      let k ← flowKey? fuel
      let v ← flowValue? fuel .flowListEnd
      return .record {} [(k, v)] :: (← flowItems? fuel false)
    else
      let n ← node? fuel false false
      return n :: (← flowItems? fuel false)

/-- Reads the key of an item that is a record of one entry.  A missing key takes the token
after it along. -/
def flowKey? : Nat → Reader Tree
  | 0 => failure
  | fuel + 1 => do
    if ← isNext [.value, .comma, .flowListEnd] then
      skip
      return .empty {}
    else node? fuel false false

/-- Reads a value within brackets, if there is one. -/
def flowValue? : Nat → Token → Reader Tree
  | 0, _ => failure
  | fuel + 1, close => do
    if ← accept .value then nodeUnless? fuel [.comma, close] false false
    else return .empty {}

/-- Reads the entries of a record in brackets; every entry but the first follows a comma. -/
def flowEntries? : Nat → Bool → Reader (List (Tree × Tree))
  | 0, _ => failure
  | fuel + 1, isFirst => do
    if ← accept .flowRecordEnd then return []
    if !isFirst then
      expect .comma
      if ← accept .flowRecordEnd then return []
    if ← accept .key then
      let k ← nodeUnless? fuel [.value, .comma, .flowRecordEnd] false false
      let v ← flowValue? fuel .flowRecordEnd
      return (k, v) :: (← flowEntries? fuel false)
    else
      let k ← node? fuel false false
      return (k, .empty {}) :: (← flowEntries? fuel false)

end

/-! ## Documents -/

/-- Reads the directives of a document: at most one version, which must be 1.1 or 1.2,
and at most one meaning for each handle. -/
def directives? (versionSeen : Bool) (handles : List (String × List UInt8)) :
    List Token → Option (List (String × List UInt8) × List Token)
  | .version major minor :: rest =>
    if versionSeen || major != 1 || (minor != 1 && minor != 2) then none
    else directives? true handles rest
  | .shorthand handle meaning :: rest =>
    if (handles.lookup handle).isSome then none
    else directives? versionSeen ((handle, meaning) :: handles) rest
  | tokens => some (handles, tokens)

/-- The handles that every document knows, unless it says otherwise. -/
def usualHandles : List (String × List UInt8) :=
  [("!", [0x21]), ("!!", Text.Utf8.encode typePrefix)]

/-- The next token starts or ends a document. -/
def atDocumentEdge : List Token → Bool
  | [] => true
  | .version _ _ :: _ => true
  | .shorthand _ _ :: _ => true
  | .documentStart :: _ => true
  | .documentEnd :: _ => true
  | _ => false

/-- Reads the only document of a text, if there is one. -/
def Tree.ofTokens? (tokens : List Token) : Option (Option Tree) := do
  if tokens.isEmpty then return none
  let (handles, content) ← directives? false [] tokens
  let isExplicit := content.head? == some .documentStart
  if !isExplicit && content.length != tokens.length then none
  let content := if isExplicit then content.drop 1 else content
  let (t, r) ←
    if isExplicit && atDocumentEdge content then
      some (.empty {}, { tokens := content, handles })
    else
      (node? (3 * content.length + 3) true false).run
        { tokens := content, handles := handles ++ usualHandles }
  if r.tokens.all (· == .documentEnd) then some (some t) else none

end LogProblems.Document.Yaml
