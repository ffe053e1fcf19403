import LogProblems.Pattern.Extended.Bracket

/-!
# Reading the extended notation

`read` gives the syntax of a pattern and what is known of its groups, or nothing when
it is not written in the extended notation.  Options are applied while reading, so
the syntax has none.
-/

set_option autoImplicit false

namespace LogProblems.Pattern.Extended

open LogProblems.Unicode Reader

/-! ## What is passed over -/

/-- The text behind a comment group, from behind its opening. -/
def afterComment : List Char → Option (List Char)
  | [] => none
  | '\\' :: _ :: cs => afterComment cs
  | c :: cs => if c == ')' then some cs else afterComment cs

/-- The text behind comment groups and, if blanks mean nothing, behind blanks and
comments to the end of the line. -/
def afterIgnored (verbose : Bool) : Nat → List Char → Option (List Char)
  | 0, cs => some cs
  | _, [] => some []
  | fuel + 1, c :: cs =>
    if c == '(' then
      match cs with
      | '?' :: '#' :: cs =>
        match afterComment cs with
        | some cs => afterIgnored verbose fuel cs
        | none => none
      | _ => some (c :: cs)
    else if verbose && (c == ' ' || c == '\t' || c == '\n' || c == '\r' || c.toNat == 0x0C) then
      afterIgnored verbose fuel cs
    else if verbose && c == '#' then
      afterIgnored verbose fuel ((cs.dropWhile (· != '\n')).drop 1)
    else some (c :: cs)

/-- Passes over what means nothing. -/
def skipIgnored (o : Options) : Reader Unit := do
  let cs ← rest
  let some after := afterIgnored o.verbose (cs.length + 1) cs | failure
  goTo after

/-! ## Repetitions -/

/-- A repetition as read: whether what it takes is never given back. -/
structure Quantifier where
  count : Count
  possessive : Bool

/-- The greatest count of a repetition. -/
def repeatLimit : Nat := 100000

/-- What braces stand for. -/
inductive Braces where
  /-- They are characters. -/
  | literal
  /-- The count is too large. -/
  | tooLarge
  /-- A repetition; `fixed` if only one number is written. -/
  | counted (min : Nat) (max : Option Nat) (fixed : Bool) (rest : List Char)

/-- Reads braces from behind the opening one. -/
def braces (cs : List Char) : Braces :=
  let (count, low, rest) := decimalRun cs
  if repeatLimit < low then .tooLarge
  else
    match rest with
    | ',' :: rest =>
      let (count', high, rest) := decimalRun rest
      if repeatLimit < high then .tooLarge
      else if count = 0 && count' = 0 then .literal
      else
        match rest with
        | '\x7d' :: rest => .counted low (if count' = 0 then none else some high) false rest
        | _ => .literal
    | '\x7d' :: rest => if count = 0 then .literal else .counted low (some low) true rest
    | _ => .literal

/-- Reads the sign behind a repetition's sign: a question mark makes it lazy, a plus sign
possessive. -/
def greed (min : Nat) (max : Option Nat) : Reader Quantifier := do
  match ← peek? with
  | some '?' =>
    let _ ← next
    return ⟨⟨min, max, false⟩, false⟩
  | some '+' =>
    let _ ← next
    return ⟨⟨min, max, true⟩, true⟩
  | _ => return ⟨⟨min, max, true⟩, false⟩

/-- Reads a repetition, if one comes next.  Limits in the wrong order are exchanged, and
the repetition is possessive. -/
def quantifier? (o : Options) : Reader (Option Quantifier) := do
  skipIgnored o
  match ← rest with
  | '*' :: cs =>
    goTo cs
    return some (← greed 0 none)
  | '+' :: cs =>
    goTo cs
    return some (← greed 1 none)
  | '?' :: cs =>
    goTo cs
    return some (← greed 0 (some 1))
  | '\x7b' :: cs =>
    match braces cs with
    | .literal => return none
    | .tooLarge => failure
    | .counted min max fixed cs =>
      goTo cs
      if fixed then return some ⟨⟨min, max, true⟩, false⟩
      match max with
      | some high =>
        if high < min then return some ⟨⟨high, some min, true⟩, true⟩
      | none => pure ()
      if (← peek?) == some '?' then
        let _ ← next
        return some ⟨⟨min, max, false⟩, false⟩
      return some ⟨⟨min, max, true⟩, false⟩
  | _ => return none

/-- A pattern under a repetition. -/
def Quantifier.apply (q : Quantifier) (s : Syntax) : Syntax :=
  let r := s.repeat' q.count
  if q.possessive then .atomic r else r

/-- Reads all repetitions of a pattern. -/
def quantified (o : Options) : Nat → Syntax → Reader Syntax
  | 0, s => return s
  | fuel + 1, s => do
    match ← quantifier? o with
    | some q => quantified o fuel (q.apply s)
    | none => return s

/-! ## Names of groups -/

/-- A character of a group's name. -/
def isNameChar (c : Char) : Bool := plainWordSet.contains c

/-- How a group is referred to. -/
inductive Reference where
  | name (name : String)
  | absolute (n : Nat)
  /-- Counted from the groups opened so far. -/
  | relative (offset : Int)
  deriving Repr, Inhabited

/-- Reads the name of a new group up to the closing mark. -/
def groupName (close : Char) : Reader String := do
  let name := (← rest).takeWhile fun c => c != close && c != ')'
  let some first := name.head? | failure
  unless name.all isNameChar && !first.isDigit do failure
  goTo ((← rest).drop name.length)
  expect close
  return String.ofList name

/-- What the text of a reference to a group says. -/
def Reference.ofText? (text : List Char) : Option Reference :=
  let number? (digits : List Char) : Option Nat :=
    let (count, n, after) := decimalRun digits
    if count != 0 && after.isEmpty && n ≤ numberLimit then some n else none
  match text with
  | [] => none
  | '-' :: digits => do
    let n ← number? digits
    if n = 0 then none
    return .relative (-n)
  | '+' :: digits => do
    let n ← number? digits
    if n = 0 then none
    return .relative n
  | first :: more =>
    if first.isDigit then (number? (first :: more)).map .absolute
    else if text.all isNameChar then some (.name (String.ofList text))
    else none

/-- Reads a reference to a group up to the closing mark. -/
def groupReference (close : Char) : Reader Reference := do
  let text := (← rest).takeWhile fun c => c != close && c != ')'
  let some r := Reference.ofText? text | failure
  goTo ((← rest).drop text.length)
  expect close
  return r

/-- Reads a reference to a group up to the closing mark, and the level behind it: a
number with its sign. -/
def levelReference (close : Char) : Reader (Reference × Option Int) := do
  let first ← next
  let more := (← rest).takeWhile fun c => c != close && c != ')' && c != '+' && c != '-'
  let some r := Reference.ofText? (first :: more) | failure
  goTo ((← rest).drop more.length)
  let c ← next
  if c == close then return (r, none)
  unless c == '+' || c == '-' do failure
  let (count, n, after) := decimalRun (← rest)
  unless count != 0 && n ≤ numberLimit do failure
  goTo after
  expect close
  return (r, some (if c == '-' then -n else n))

/-- The number a reference counts to. -/
def Reference.number? (r : Reference) (groups : Nat) : Option Int :=
  match r with
  | .name _ => none
  | .absolute n => some n
  | .relative d => some (if 0 < d then groups + d else groups + 1 + d)

/-- The groups that a reference is to, which must be some, and whether it is by name. -/
def Reference.groups? (r : Reference) (s : Cursor) : Option (List Nat × Bool) :=
  match r with
  | .name n =>
    let groups := (s.names.filter (·.1 == n)).map (·.2)
    if groups.isEmpty then none else some (groups, true)
  | r => do
    let n ← r.number? s.groups
    if n ≤ 0 then none
    return ([n.toNat], false)

/-- The mark that closes a name. -/
def closingMark (c : Char) : Char := if c == '<' then '>' else c

/-! ## Single items -/

/-- What one escape or character is in a pattern. -/
inductive Item where
  | code (n : Nat)
  | octet (n base : Nat)
  | part (s : Syntax)
  deriving Inhabited

/-- An escape for a character, an octet or a set. -/
def Escape.toItem : Escape → Item
  | .code n => .code n
  | .octet n base => .octet n base
  | .set s => .part (.chars s)

/-- A line break: a carriage return with a line feed, or one character that ends a
line. -/
def lineBreak : Syntax :=
  .atomic (.choice
    [.sequence [.chars (.single 0x0D), .chars (.single 0x0A)],
      .chars (.ofLine "A-D 85 2028-2029")])

/-- A grapheme cluster. -/
def cluster : Syntax :=
  let further : Syntax := .sequence [.place .noClusterBoundary, .chars .full]
  .atomic (.sequence [.chars .full, .repeated further ⟨0, none, true⟩])

/-- The greatest group number of a back-reference without marks. -/
def referenceLimit : Nat := 1000

/-- Reads an escape, from behind the backslash. -/
def patternEscape (o : Options) : Reader Item := do
  let before ← rest
  let c ← next
  match c with
  | 'b' => return .part (.place (.boundary o.words))
  | 'B' => return .part (.place (.noBoundary o.words))
  | 'A' => return .part (.place .textStart)
  | 'Z' => return .part (.place .lastLineEnd)
  | 'z' => return .part (.place .textEnd)
  | 'G' => return .part (.place .textStart)
  | 'K' => return .part .keep
  | 'R' => return .part lineBreak
  | 'X' => return .part cluster
  | 'y' => return .part (.place .clusterBoundary)
  | 'Y' => return .part (.place .noClusterBoundary)
  | 'k' =>
    match ← peek? with
    | some mark =>
      if mark == '<' || mark == '\'' then
        let _ ← next
        let (r, level) ← levelReference (closingMark mark)
        let some (groups, byName) := r.groups? (← get) | failure
        return .part (.reference groups byName o.anyCase level)
      return .code c.toNat
    | none => return .code c.toNat
  | 'g' =>
    match ← peek? with
    | some mark =>
      if mark == '<' || mark == '\'' then
        let _ ← next
        match ← groupReference (closingMark mark) with
        | .name name => return .part (.call (.name name))
        | r =>
          let some n := r.number? (← get).groups | failure
          if n < 0 then failure
          return .part (.call (.number n.toNat))
      return .code c.toNat
    | none => return .code c.toNat
  | '0' => return (← octalOctet 2).toItem
  | _ =>
    if c.isDigit then
      let (_, n, after) := decimalRun before
      if n ≤ referenceLimit && (n ≤ (← get).groups || n ≤ 9) then
        goTo after
        return .part (.reference [n] false o.anyCase none)
      if c == '8' || c == '9' then return .code c.toNat
      goTo before
      return (← octalOctet 3).toItem
    goTo before
    return (← simpleEscape o false).toItem

/-- Reads the octets of a character that begins with the given one. -/
def octetChar (o : Options) (lead : Nat) : Reader Nat := do
  let octets ← go (octetCount lead - 1) [lead]
  let some n := decodeOctets? octets | failure
  return n
where
  /-- Reads `n` more octets. -/
  go : Nat → List Nat → Reader (List Nat)
    | 0, octets => return octets.reverse
    | n + 1, octets => do
      skipIgnored o
      expect '\\'
      match ← patternEscape o with
      | .octet b _ => go n (b :: octets)
      | _ => failure

/-- A set of characters in brackets, with the texts of several characters that fold
like one of them. -/
def bracketedSyntax (o : Options) (negated : Bool) (s : CharSet) : Syntax :=
  if !o.anyCase then .chars (if negated then s.complement else s)
  else
    let closed := Folding.close s
    if negated then .chars closed.complement
    else
      let texts := if o.oneForOne then [] else
        (Folding.multiple.filter fun row => closed.containsCode row.1).map fun row =>
          Syntax.folded row.2
      .ofChoices (.chars closed :: texts)

/-- A run of literal characters. -/
def literalRun (o : Options) (codes : List Nat) : List Syntax :=
  if codes.isEmpty then []
  else if !o.anyCase then codes.map fun n => .chars (.single n)
  else if o.oneForOne then
    codes.map fun n => .chars (.ofRanges ((Folding.equivalents n).map fun m => (m, m)))
  else [.folded (codes.flatMap Folding.full)]

/-! ## Options and groups -/

/-- Changes an option. -/
def Options.change (o : Options) (letter : Char) (on : Bool) : Option Options :=
  match letter with
  | 'i' => some { o with anyCase := on }
  | 'm' => some { o with dotAll := on }
  | 'x' => some { o with verbose := on }
  | 'W' => some { o with asciiWords := on }
  | 'D' => some { o with asciiDigits := on }
  | 'S' => some { o with asciiSpaces := on }
  | 'P' => some { o with asciiNames := on }
  | _ => none

/-- Reads option letters up to a colon or a closing parenthesis: the options then, and
whether they hold for a group of their own. -/
def optionLetters : Nat → Options → Bool → Reader (Options × Bool)
  | 0, _, _ => failure
  | fuel + 1, o, on => do
    let c ← next
    if c == ':' then return (o, true)
    else if c == ')' then return (o, false)
    else if c == '-' then optionLetters fuel o false
    else
      let some o := o.change c on | failure
      optionLetters fuel o on

/-- Takes the number of a new group. -/
def newGroup (name : Option String) : Reader Nat := do
  let s ← get
  let n := s.groups + 1
  set { s with
    groups := n
    names := match name with
      | some name => (name, n) :: s.names
      | none => s.names }
  return n

/-- How a group is opened. -/
inductive Opening where
  | plain
  | ahead (negated : Bool)
  | behind (negated : Bool)
  | atomic
  /-- What must not occur, behind a bar also what it must not occur in. -/
  | absent (barred : Bool)
  | uncut
  | capture
  | named (name : String)
  | conditional
  /-- Options for a group, or for the rest of the enclosing one. -/
  | options (o : Options) (forGroup : Bool)

/-- Reads how a group is opened, from behind its parenthesis. -/
def groupOpening (o : Options) : Reader Opening := do
  match ← rest with
  | '?' :: cs =>
    match cs with
    | ':' :: cs => goTo cs; return .plain
    | '=' :: cs => goTo cs; return .ahead false
    | '!' :: cs => goTo cs; return .ahead true
    | '>' :: cs => goTo cs; return .atomic
    | '~' :: '|' :: ')' :: cs => goTo (')' :: cs); return .uncut
    | '~' :: '|' :: cs => goTo cs; return .absent true
    | '~' :: cs => goTo cs; return .absent false
    | '(' :: cs => goTo cs; return .conditional
    | '\'' :: cs =>
      goTo cs
      return .named (← groupName '\'')
    | '<' :: '=' :: cs => goTo cs; return .behind false
    | '<' :: '!' :: cs => goTo cs; return .behind true
    | '<' :: cs =>
      goTo cs
      return .named (← groupName '>')
    | c :: cs =>
      unless c == '-' || (o.change c true).isSome do failure
      goTo (c :: cs)
      let (o, forGroup) ← optionLetters (cs.length + 2) o true
      return .options o forGroup
    | [] => failure
  | _ => return .capture

/-- The branches of a conditional: what a choice of two and more says of both. -/
def branches : Syntax → Syntax × Syntax
  | .choice (yes :: no) => (yes, .ofChoices no)
  | s => (s, .empty)

/-- An absent pattern behind a bar: the first of several choices is what must not occur,
and the others what it must not occur in. -/
def barredAbsent : Syntax → Syntax
  | .choice (stop :: body) => .absent stop (.ofChoices body)
  | stop => .cut stop

/-! ## Patterns -/

mutual

/-- Reads choices up to a closing parenthesis or the end of the pattern. -/
def choices : Nat → Options → Reader Syntax
  | 0, _ => failure
  | fuel + 1, o => do
    let first ← branch fuel o [] []
    moreChoices fuel o [first]

/-- Reads further choices; those before are given last first. -/
def moreChoices : Nat → Options → List Syntax → Reader Syntax
  | 0, _, _ => failure
  | fuel + 1, o, before => do
    if (← peek?) == some '|' then
      let _ ← next
      let s ← branch fuel o [] []
      moreChoices fuel o (s :: before)
    else return .ofChoices before.reverse

/-- Reads parts in a row; `run` are literal characters not yet made into parts, and
`parts` the parts before them, both last first. -/
def branch : Nat → Options → List Nat → List Syntax → Reader Syntax
  | 0, _, _, _ => failure
  | fuel + 1, o, run, parts => do
    skipIgnored o
    let flushed := (literalRun o run.reverse).reverse ++ parts
    let add (s : Syntax) : Reader Syntax := do
      branch fuel o [] ((← quantified o fuel s) :: flushed)
    let literal (n : Nat) : Reader Syntax := do
      let some n := codePoint? n | failure
      match ← quantifier? o with
      | some q =>
        let last := Syntax.ofParts (literalRun o [n])
        branch fuel o [] ((← quantified o fuel (q.apply last)) :: flushed)
      | none => branch fuel o (n :: run) parts
    match ← peek? with
    | none => return .ofParts flushed.reverse
    | some c =>
      match c with
      | ')' | '|' => return .ofParts flushed.reverse
      | '*' | '+' | '?' => failure
      | '\x7b' =>
        match ← quantifier? o with
        | some _ => failure
        | none =>
          let _ ← next
          literal c.toNat
      | '.' =>
        let _ ← next
        add (.chars (if o.dotAll then .full else (CharSet.single 0x0A).complement))
      | '^' =>
        let _ ← next
        add (.place .lineStart)
      | '$' =>
        let _ ← next
        add (.place .lineEnd)
      | '[' =>
        let _ ← next
        let (negated, s) ← bracketed o ((← rest).length + 1)
        add (bracketedSyntax o negated s)
      | '\\' =>
        let _ ← next
        match ← patternEscape o with
        | .code n => literal n
        | .octet n _ => literal (← octetChar o n)
        | .part s => add s
      | '(' =>
        let _ ← next
        match ← groupOpening o with
        | .options o false =>
          -- The rest of the enclosing group, with its bars, is one part.
          let s ← choices fuel o
          return .ofParts (s :: flushed).reverse
        | opening =>
          let s ← group fuel o opening
          expect ')'
          add s
      | c =>
        let _ ← next
        literal c.toNat

/-- Reads a group from behind its opening up to its closing parenthesis. -/
def group : Nat → Options → Opening → Reader Syntax
  | 0, _, _ => failure
  | fuel + 1, o, opening => do
    match opening with
    | .plain => choices fuel o
    | .options o _ => choices fuel o
    | .ahead negated => return .ahead negated (← choices fuel o)
    | .behind negated => return .behind negated (← choices fuel { o with oneForOne := true })
    | .atomic => return .atomic (← choices fuel o)
    | .absent barred =>
      let s ← choices fuel o
      if barred then return barredAbsent s
      return .absent s (.repeated (.chars .full) ⟨0, none, true⟩)
    | .uncut => return .uncut
    | .capture =>
      let n ← newGroup none
      return .group n false (← choices fuel o)
    | .named name =>
      let n ← newGroup (some name)
      return .group n true (← choices fuel o)
    | .conditional =>
      let test ← condition fuel o
      match ← peek? with
      | some ')' =>
        match test with
        | .present .. => return test
        | _ => failure
      | some '|' =>
        let _ ← next
        return .conditional test .empty (← choices fuel o)
      | _ =>
        let (yes, no) := branches (← choices fuel o)
        return .conditional test yes no

/-- Reads the condition of a conditional with its closing parenthesis: that a group
took part, or a pattern. -/
def condition : Nat → Options → Reader Syntax
  | 0, _ => failure
  | fuel + 1, o => do
    let before ← get
    let pattern : Reader Syntax := do
      set before
      let s ← choices fuel o
      expect ')'
      return s
    match before.rest with
    | c :: cs =>
      if c == '<' || c == '\'' then
        goTo cs
        let (r, level) ← levelReference (closingMark c)
        let some (groups, byName) := r.groups? (← get) | failure
        expect ')'
        return .present groups byName level
      else if c.isDigit || c == '-' || c == '+' then
        match (levelReference ')').run before with
        | some ((r, level), after) =>
          set after
          let some (groups, byName) := r.groups? after | failure
          return .present groups byName level
        | none => pattern
      else pattern
    | [] => failure

end

/-- Reads a whole pattern: its syntax, and the groups with their names. -/
def read (source : String) : Option (Syntax × Cursor) :=
  let cs := source.toList
  match (choices (4 * cs.length + 8) {}).run { rest := cs } with
  | some (s, cursor) => if cursor.rest.isEmpty then some (s, cursor) else none
  | none => none

end LogProblems.Pattern.Extended
