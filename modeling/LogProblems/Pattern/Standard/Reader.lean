import LogProblems.Pattern.Standard.Syntax
import LogProblems.Text.Blank
import LogProblems.Text.Integer
import LogProblems.Unicode.Category
import LogProblems.Unicode.Property

/-!
# Reading the standard notation

`read` gives the syntax of a pattern, or nothing when it is not written in the
standard notation.  Look-around and back-references have no place in it.

A reader takes a cursor: the rest of the pattern, whether blanks are passed over,
the number of groups so far and their names.
-/

set_option autoImplicit false

namespace LogProblems.Pattern.Standard

open LogProblems.Text

/-- Where a reader stands. -/
structure Cursor where
  rest : List Char
  verbose : Bool := false
  groups : Nat := 0
  names : List String := []

/-- A reader: from a cursor to a result and the cursor behind it, or nothing. -/
abbrev Reader (α : Type) := StateT Cursor Option α

namespace Reader

/-- The next character, if there is one. -/
def peek? : Reader (Option Char) := do return (← get).rest.head?

/-- The character after the next. -/
def peekSecond? : Reader (Option Char) := do return (← get).rest[1]?

/-- The next character, which must exist. -/
def peek : Reader Char := do
  let some c ← peek? | failure
  return c

/-- Passes over one character. -/
def bump : Reader Unit := modify fun s => { s with rest := s.rest.drop 1 }

/-- Passes over a character that must be there. -/
def expect (c : Char) : Reader Unit := do
  unless (← peek?) == some c do failure
  bump

/-- The text after its leading blanks and comments. -/
def withoutBlanks : Bool → List Char → List Char
  | _, [] => []
  | inComment, c :: rest =>
    if inComment then withoutBlanks (c != '\n') rest
    else if isBlank c then withoutBlanks false rest
    else if c == '#' then withoutBlanks true rest
    else c :: rest

/-- Passes over blanks and comments, if blanks mean nothing. -/
def skipBlanks : Reader Unit :=
  modify fun s => if s.verbose then { s with rest := withoutBlanks false s.rest } else s

/-- Passes over a character and then over blanks. -/
def bumpAndSkip : Reader Unit := do bump; skipBlanks

/-- Passes over a character and over blanks; something must be left. -/
def bumpInto : Reader Unit := do
  bumpAndSkip
  if (← get).rest.isEmpty then failure

/-- Passes over a character; something must be left. -/
def bumpOn : Reader Unit := do
  bump
  if (← get).rest.isEmpty then failure

/-- Passes over a text if it comes next. -/
def bumpIf (lead : String) : Reader Bool := do
  let s ← get
  if lead.toList.isPrefixOf s.rest then
    set { s with rest := s.rest.drop lead.length }
    return true
  return false

end Reader

open Reader

/-- The first character that is neither blank nor starts a comment, when blanks mean
nothing; otherwise the character after the next. -/
def peekPastBlanks? : Reader (Option Char) := do
  let s ← get
  let rest := s.rest.drop 1
  if !s.verbose then return rest.head?
  let rec scan (commented : Bool) : List Char → Option Char
    | [] => rest.head?
    | c :: cs =>
      if isBlank c then scan commented cs
      else if !commented && c == '#' then scan true cs
      else some c
  return scan false rest

/-! ## Escapes -/

/-- The character with a code point. -/
def charOfCode? (n : Nat) : Option Char :=
  if n < 0xD800 ∨ (0xDFFF < n ∧ n < 0x110000) then some (Char.ofNat n) else none

/-- Reads hexadecimal digits up to the closing brace; `fuel` bounds their number. -/
def hexBraced : Nat → Option Nat → Reader Nat
  | 0, _ => failure
  | fuel + 1, value => do
    bumpAndSkip
    let c ← peek
    if c == '\x7d' then
      bumpAndSkip
      let some n := value | failure
      return n
    let some d := hexDigit? c | failure
    hexBraced fuel (some (value.getD 0 * 16 + d))

/-- Reads exactly `n` hexadecimal digits. -/
def hexFixed : Nat → Nat → Reader Nat
  | 0, value => return value
  | n + 1, value => do
    let some d := hexDigit? (← peek) | failure
    if n = 0 then bumpAndSkip else bumpInto
    hexFixed n (value * 16 + d)

/-- Reads a character by its code point; the escape's letter comes next. -/
def hexEscape (digits : Nat) : Reader Literal := do
  bumpInto
  let (value, octet) ←
    if (← peek) == '\x7b' then pure (← hexBraced ((← get).rest.length) none, false)
    else pure (← hexFixed digits 0, digits == 2)
  let some c := charOfCode? value | failure
  return ⟨c, octet⟩

/-- Reads a name up to the closing brace. -/
def nameBraced : Nat → List Char → Reader (List Char)
  | 0, _ => failure
  | fuel + 1, acc => do
    bumpAndSkip
    let c ← peek
    if c == '\x7d' then
      bump
      return acc.reverse
    nameBraced fuel (c :: acc)

/-- Splits at the first place where a text stands. -/
def splitAtFirst (mark : List Char) : List Char → Option (List Char × List Char)
  | [] => none
  | c :: cs =>
    if mark.isPrefixOf (c :: cs) then some ([], (c :: cs).drop mark.length)
    else (splitAtFirst mark cs).map fun (a, b) => (c :: a, b)

/-- A query by what stands between the braces; the signs `!=`, `:` and `=` all join a
property to its value. -/
def UnicodeQuery.ofName (name : List Char) : UnicodeQuery :=
  let value (p v : List Char) : UnicodeQuery := .value (String.ofList p) (String.ofList v)
  match splitAtFirst ['!', '='] name with
  | some (p, v) => value p v
  | none =>
    match splitAtFirst [':'] name with
    | some (p, v) => value p v
    | none =>
      match splitAtFirst ['='] name with
      | some (p, v) => value p v
      | none => .name (String.ofList name)

/-- Reads a class of Unicode; the letter `p`, or `P` that negates it, comes next. -/
def unicodeClass : Reader (UnicodeQuery × Bool) := do
  let negated := (← peek) == 'P'
  bumpInto
  let c ← peek
  if c == '\x7b' then
    let name ← nameBraced ((← get).rest.length) []
    return (UnicodeQuery.ofName name, negated)
  else if c == '\\' then failure
  else
    bumpAndSkip
    return (.name (String.singleton c), negated)

/-- What an escape or a character stands for. -/
inductive Primitive where
  | literal (l : Literal)
  | dot
  | anchor (a : Anchor)
  | short (c : ShortClass) (negated : Bool)
  | unicode (q : UnicodeQuery) (negated : Bool)
  deriving Repr, Inhabited

/-- The characters that mean something and are escaped to stand for themselves. -/
def isMeta (c : Char) : Bool :=
  "\\.+*?()|[]\x7b\x7d^$#&-~".toList.contains c

/-- A character that may be escaped and then stands for itself. -/
def isEscapable (c : Char) : Bool :=
  isMeta c || (c.toNat < 0x80 && !c.isAlphanum && c != '<' && c != '>')

/-- The kinds of word boundary that are written in braces. -/
def namedBoundary? : String → Option Anchor
  | "start" => some .wordStart
  | "end" => some .wordEnd
  | "start-half" => some .wordStartHalf
  | "end-half" => some .wordEndHalf
  | _ => none

/-- A character of the name of a word boundary. -/
def isBoundaryChar (c : Char) : Bool :=
  c.isAlpha || c == '-'

/-- Reads the name of a word boundary. -/
def boundaryName : Nat → List Char → Reader (List Char)
  | 0, acc => return acc.reverse
  | fuel + 1, acc => do
    match ← peek? with
    | none => return acc.reverse
    | some c =>
      if isBoundaryChar c then
        bumpAndSkip
        boundaryName fuel (c :: acc)
      else return acc.reverse

/-- Reads the braces after `\b`, unless they are a counted repetition. -/
def boundaryKind : Reader Anchor := do
  unless (← peek?) == some '\x7b' do return .wordBoundary
  let before ← get
  bumpInto
  unless isBoundaryChar (← peek) do
    set before
    return .wordBoundary
  let name ← boundaryName ((← get).rest.length) []
  expect '\x7d'
  let some a := namedBoundary? (String.ofList name) | failure
  return a

/-- Reads an escape; the backslash comes next. -/
def escape : Reader Primitive := do
  bumpOn
  let c ← peek
  if c.isDigit then failure
  match c with
  | 'x' => return .literal (← hexEscape 2)
  | 'u' => return .literal (← hexEscape 4)
  | 'U' => return .literal (← hexEscape 8)
  | 'p' | 'P' =>
    let (q, negated) ← unicodeClass
    return .unicode q negated
  | 'd' => bump; return .short .digit false
  | 'D' => bump; return .short .digit true
  | 's' => bump; return .short .space false
  | 'S' => bump; return .short .space true
  | 'w' => bump; return .short .word false
  | 'W' => bump; return .short .word true
  | _ =>
    bump
    if isEscapable c then return .literal ⟨c, false⟩
    match c with
    | 'a' => return .literal ⟨Char.ofNat 0x07, false⟩
    | 'f' => return .literal ⟨Char.ofNat 0x0C, false⟩
    | 't' => return .literal ⟨'\t', false⟩
    | 'n' => return .literal ⟨'\n', false⟩
    | 'r' => return .literal ⟨'\r', false⟩
    | 'v' => return .literal ⟨Char.ofNat 0x0B, false⟩
    | 'A' => return .anchor .textStart
    | 'z' => return .anchor .textEnd
    | 'b' => return .anchor (← boundaryKind)
    | 'B' => return .anchor .noWordBoundary
    | '<' => return .anchor .wordStart
    | '>' => return .anchor .wordEnd
    | _ => failure

/-- Reads an escape or a character. -/
def primitive : Reader Primitive := do
  let c ← peek
  match c with
  | '\\' => escape
  | '.' => bump; return .dot
  | '^' => bump; return .anchor .caret
  | '$' => bump; return .anchor .dollar
  | c => bump; return .literal ⟨c, false⟩

/-- What a primitive is in a pattern. -/
def Primitive.toSyntax : Primitive → Syntax
  | .literal l => .literal l
  | .dot => .dot
  | .anchor a => .anchor a
  | .short c negated => .short c negated
  | .unicode q negated => .unicode q negated

/-! ## Bracketed sets -/

/-- The ASCII classes by name, with their tables. -/
def asciiClass? : String → Option String
  | "alnum" => some "30-39 41-5A 61-7A"
  | "alpha" => some "41-5A 61-7A"
  | "ascii" => some "0-7F"
  | "blank" => some "9 20"
  | "cntrl" => some "0-1F 7F"
  | "digit" => some "30-39"
  | "graph" => some "21-7E"
  | "lower" => some "61-7A"
  | "print" => some "20-7E"
  | "punct" => some "21-2F 3A-40 5B-60 7B-7E"
  | "space" => some "9-D 20"
  | "upper" => some "41-5A"
  | "word" => some "30-39 41-5A 5F 61-7A"
  | "xdigit" => some "30-39 41-46 61-66"
  | _ => none

/-- An ASCII class at the front of a text: its member, and the text after it. -/
def asciiItem? : List Char → Option (SetItem × List Char)
  | '[' :: ':' :: rest =>
    let (negated, rest) :=
      match rest with
      | '^' :: rest => (true, rest)
      | rest => (false, rest)
    let name := rest.takeWhile (· != ':')
    match rest.drop name.length, asciiClass? (String.ofList name) with
    | ':' :: ']' :: rest, some table => some (.ascii table negated, rest)
    | _, _ => none
  | _ => none

/-- Reads a member that may be an end of an interval. -/
def setPrimitive : Reader Primitive := do
  if (← peek) == '\\' then escape
  else
    let c ← peek
    bump
    return .literal ⟨c, false⟩

/-- A primitive as a member of a set. -/
def Primitive.toItem? : Primitive → Option SetItem
  | .literal l => some (.literal l)
  | .short c negated => some (.short c negated)
  | .unicode q negated => some (.unicode q negated)
  | _ => none

/-- A primitive as an end of an interval. -/
def Primitive.toLiteral? : Primitive → Option Literal
  | .literal l => some l
  | _ => none

/-- Reads a member or an interval. -/
def setRange : Reader SetItem := do
  let first ← setPrimitive
  skipBlanks
  let c ← peek
  let past ← peekPastBlanks?
  if c != '-' || past == some ']' || past == some '-' then
    let some item := first.toItem? | failure
    return item
  bumpInto
  let second ← setPrimitive
  let some lo := first.toLiteral? | failure
  let some hi := second.toLiteral? | failure
  if hi.char < lo.char then failure
  return .range lo hi

/-- Reads hyphens that stand for themselves at the start of a set. -/
def leadingHyphens : Nat → List SetItem → Reader (List SetItem)
  | 0, items => return items
  | fuel + 1, items => do
    if (← peek) == '-' then
      bumpInto
      leadingHyphens fuel (items ++ [.literal ⟨'-', false⟩])
    else return items

/-- Reads the opening bracket of a set, a circumflex, and members that stand for
themselves only there. -/
def setOpen : Reader (Bool × List SetItem) := do
  bumpInto
  let negated := (← peek) == '^'
  if negated then bumpInto
  let items ← leadingHyphens ((← get).rest.length) []
  if items.isEmpty && (← peek) == ']' then
    bumpInto
    return (negated, [.literal ⟨']', false⟩])
  return (negated, items)

/-- The members read so far, joined to those before the operator they follow. -/
def closeOp (pending : Option (SetOp × SetItem)) (items : List SetItem) : SetItem :=
  match pending with
  | none => .ofItems items
  | some (op, lhs) => .op op lhs (.ofItems items)

mutual

/-- Reads a bracketed set; its opening bracket comes next. -/
def bracketed : Nat → Reader SetItem
  | 0 => failure
  | fuel + 1 => do
    let (negated, items) ← setOpen
    let set ← setBody fuel none items
    return .bracketed negated set

/-- Reads the members of a set up to its closing bracket. -/
def setBody : Nat → Option (SetOp × SetItem) → List SetItem → Reader SetItem
  | 0, _, _ => failure
  | fuel + 1, pending, items => do
    skipBlanks
    let c ← peek
    let second ← peekSecond?
    let operator (op : SetOp) : Reader SetItem := do
      bump; bump
      setBody fuel (some (op, closeOp pending items)) []
    match c with
    | '[' =>
      match asciiItem? (← get).rest with
      | some (item, rest) =>
        modify fun s => { s with rest }
        setBody fuel pending (items ++ [item])
      | none =>
        let item ← bracketed fuel
        setBody fuel pending (items ++ [item])
    | ']' =>
      bump
      return closeOp pending items
    | '&' =>
      if second == some '&' then operator .inter
      else setBody fuel pending (items ++ [← setRange])
    | '-' =>
      if second == some '-' then operator .diff
      else setBody fuel pending (items ++ [← setRange])
    | '~' =>
      if second == some '~' then operator .symmDiff
      else setBody fuel pending (items ++ [← setRange])
    | _ => setBody fuel pending (items ++ [← setRange])

end

/-! ## Repetitions -/

/-- Reads digits; blanks between them mean nothing when the pattern is verbose. -/
def digits : Nat → List Char → Reader (List Char)
  | 0, acc => return acc.reverse
  | fuel + 1, acc => do
    match ← peek? with
    | none => return acc.reverse
    | some c =>
      if c.isDigit then
        bumpAndSkip
        digits fuel (c :: acc)
      else return acc.reverse

/-- Passes over blanks in any case. -/
def skipAllBlanks : Reader Unit :=
  modify fun s => { s with rest := s.rest.dropWhile isBlank }

/-- Passes over blanks in any case, and over comments after each when the pattern is
verbose. -/
def skipBlankRun : Nat → Reader Unit
  | 0 => return
  | fuel + 1 => do
    match ← peek? with
    | none => return
    | some c =>
      if isBlank c then
        bumpAndSkip
        skipBlankRun fuel
      else return

/-- Reads a number of at most 32 bits between blanks; nothing when there is no digit. -/
def decimal : Reader (Option Nat) := do
  skipAllBlanks
  let fuel := (← get).rest.length
  let ds ← digits fuel []
  skipBlankRun fuel
  if ds.isEmpty then return none
  let n := ds.foldl (fun n c => 10 * n + (c.toNat - '0'.toNat)) 0
  if n < 1 <<< 32 then return some n
  failure

/-- Reads the question mark that makes a repetition lazy. -/
def greedyMark : Reader Bool := do
  if (← peek?) == some '?' then
    bump
    return false
  return true

/-- Only what is written in the pattern can be repeated. -/
def repeatable : Syntax → Bool
  | .empty => false
  | .flags _ => false
  | _ => true

/-- Splits the last part off, which must be repeatable. -/
def popPart (parts : List Syntax) : Reader (List Syntax × Syntax) := do
  match parts with
  | part :: rest => if repeatable part then return (rest, part) else failure
  | [] => failure

/-- Reads a repetition without count of the last part; its sign comes next. -/
def signRepetition (parts : List Syntax) (min : Nat) (max : Option Nat) :
    Reader (List Syntax) := do
  let (rest, part) ← popPart parts
  bump
  let greedy ← greedyMark
  return .repeated part min max greedy :: rest

/-- Reads a counted repetition of the last part; its opening brace comes next. -/
def countRepetition (parts : List Syntax) : Reader (List Syntax) := do
  let (rest, part) ← popPart parts
  bumpInto
  let first ← decimal
  let (min, max) ←
    if (← peek) == ',' then
      bumpInto
      if (← peek) == '\x7d' then
        let some min := first | failure
        pure (min, none)
      else
        let some min := first | failure
        let some max ← decimal | failure
        pure (min, some max)
    else
      let some n := first | failure
      pure (n, some n)
  unless (← peek) == '\x7d' do failure
  bumpAndSkip
  let greedy ← greedyMark
  if max.any (· < min) then failure
  return .repeated part min max greedy :: rest

/-! ## Groups -/

/-- The flag a letter stands for. -/
def Flag.ofLetter? : Char → Option Flag
  | 'i' => some .anyCase
  | 'm' => some .multiLine
  | 's' => some .dotAll
  | 'U' => some .swapGreed
  | 'u' => some .unicode
  | 'R' => some .crlf
  | 'x' => some .verbose
  | _ => none

/-- What was read of a list of flags: the changes, last first, whether a minus sign
was read, and whether it was read just now. -/
structure FlagDraft where
  changes : List FlagChange := []
  negated : Bool := false
  dangling : Bool := false

/-- Reads flags up to a colon or a closing parenthesis. -/
def flagList : Nat → FlagDraft → Reader FlagDraft
  | 0, _ => failure
  | fuel + 1, d => do
    let c ← peek
    if c == ':' || c == ')' then
      if d.dangling then failure
      return d
    else if c == '-' then
      if d.negated then failure
      bumpOn
      flagList fuel { d with negated := true, dangling := true }
    else
      let some flag := Flag.ofLetter? c | failure
      if d.changes.any (·.flag == flag) then failure
      bumpOn
      flagList fuel
        { d with changes := ⟨flag, !d.negated⟩ :: d.changes, dangling := false }

/-- A letter of any script. -/
def letters : Unicode.CharSet := Unicode.Property.named "Alphabetic"

/-- A number of any script. -/
def numerals : Unicode.CharSet := Unicode.Category.ofShortNames ["Nd", "Nl", "No"]

/-- A character of a group's name. -/
def isNameChar (first : Bool) (c : Char) : Bool :=
  c == '_' || letters.contains c
    || (!first && (c == '.' || c == '[' || c == ']' || numerals.contains c))

/-- Reads a group's name up to its closing angle bracket. -/
def groupName : Nat → List Char → Reader (List Char)
  | 0, _ => failure
  | fuel + 1, acc => do
    let c ← peek
    if c == '>' then
      bump
      if acc.isEmpty then failure
      return acc.reverse
    unless isNameChar acc.isEmpty c do failure
    bump
    groupName fuel (c :: acc)

/-- The greatest number of groups. -/
def groupLimit : Nat := 1 <<< 32 - 1

/-- Takes the number of a new group. -/
def nextGroup : Reader Nat := do
  let s ← get
  if groupLimit ≤ s.groups then failure
  set { s with groups := s.groups + 1 }
  return s.groups + 1

/-- Reads how a group is opened, from behind its parenthesis; flags for the rest of
the enclosing group are `none` and their changes. -/
def groupOpen : Reader (Option GroupKind × List FlagChange) := do
  let rest := (← get).rest
  if ["?=", "?!", "?<=", "?<!"].any fun lead => lead.toList.isPrefixOf rest then failure
  let named ← do
    if ← bumpIf "?P<" then pure true else bumpIf "?<"
  if named then
    let index ← nextGroup
    let name := String.ofList (← groupName ((← get).rest.length + 1) [])
    let s ← get
    if s.names.contains name then failure
    set { s with names := name :: s.names }
    return (some (.capture index), [])
  else if ← bumpIf "?" then
    let d ← flagList ((← get).rest.length + 1) {}
    let close ← peek
    bump
    let changes := d.changes.reverse
    if close == ')' then
      if changes.isEmpty then failure
      return (none, changes)
    return (some (.flags changes), changes)
  else
    return (some (.capture (← nextGroup)), [])

/-- Whether blanks mean nothing after some changes of flags. -/
def verboseAfter (changes : List FlagChange) (before : Bool) : Bool :=
  match changes.find? (·.flag == .verbose) with
  | some change => change.on
  | none => before

/-! ## Patterns -/

/-- Reads choices up to a closing parenthesis or the end of the pattern; `parts` are
the parts of the choice under way, last first, and `choices` the choices before it. -/
def choices : Nat → List Syntax → List Syntax → Reader Syntax
  | 0, _, _ => failure
  | fuel + 1, parts, before => do
    skipBlanks
    let done : Syntax :=
      .ofChoices ((.ofParts parts.reverse :: before).reverse)
    match ← peek? with
    | none => return done
    | some c =>
      match c with
      | ')' => return done
      | '|' =>
        bump
        choices fuel [] (.ofParts parts.reverse :: before)
      | '(' =>
        bump
        skipBlanks
        let verbose := (← get).verbose
        match ← groupOpen with
        | (none, changes) =>
          modify fun s => { s with verbose := verboseAfter changes verbose }
          choices fuel (.flags changes :: parts) before
        | (some kind, changes) =>
          modify fun s => { s with verbose := verboseAfter changes verbose }
          let body ← choices fuel [] []
          expect ')'
          modify fun s => { s with verbose }
          choices fuel (.group kind body :: parts) before
      | '[' =>
        match ← bracketed fuel with
        | .bracketed negated set => choices fuel (.bracketed negated set :: parts) before
        | _ => failure
      | '?' => choices fuel (← signRepetition parts 0 (some 1)) before
      | '*' => choices fuel (← signRepetition parts 0 none) before
      | '+' => choices fuel (← signRepetition parts 1 none) before
      | '\x7b' => choices fuel (← countRepetition parts) before
      | _ => choices fuel ((← primitive).toSyntax :: parts) before

/-- How deep a pattern may be nested. -/
def nestingLimit : Nat := 250

/-- Reads a whole pattern: its syntax and the number of its groups. -/
def read (source : String) : Option (Syntax × Nat) :=
  let cs := source.toList
  match (choices (2 * cs.length + 2) [] []).run { rest := cs } with
  | some (pattern, s) =>
    if s.rest.isEmpty && pattern.depth ≤ nestingLimit then some (pattern, s.groups) else none
  | none => none

end LogProblems.Pattern.Standard
