import LogProblems.Pattern.Standard.Syntax
import LogProblems.Pattern.Regular
import LogProblems.Unicode.Age
import LogProblems.Unicode.Folding
import LogProblems.Unicode.Grapheme
import LogProblems.Unicode.Script

/-!
# What the standard notation means

`Syntax.meaning` gives the regular expression that a pattern stands for under the
flags in force, or nothing when it stands for none: a class of Unicode that does
not exist, or a class that could match a part of a character.

Flags hold from where they are set to the end of the enclosing group, across the
bars between its choices, so the meaning is computed from left to right and carries
the flags along.
-/

set_option autoImplicit false

namespace LogProblems.Pattern.Standard

open LogProblems.Unicode

/-- The flags in force. -/
structure Flags where
  anyCase : Bool := false
  multiLine : Bool := false
  dotAll : Bool := false
  swapGreed : Bool := false
  unicode : Bool := true
  crlf : Bool := false
  deriving DecidableEq, Repr, Inhabited

/-- The flags after one change. -/
def Flags.change (f : Flags) (c : FlagChange) : Flags :=
  match c.flag with
  | .anyCase => { f with anyCase := c.on }
  | .multiLine => { f with multiLine := c.on }
  | .dotAll => { f with dotAll := c.on }
  | .swapGreed => { f with swapGreed := c.on }
  | .unicode => { f with unicode := c.on }
  | .crlf => { f with crlf := c.on }
  | .verbose => f

/-- The flags after some changes. -/
def Flags.changeAll (f : Flags) (changes : List FlagChange) : Flags :=
  changes.foldl Flags.change f

/-! ## Sets -/

/-- The ASCII characters. -/
def asciiChars : CharSet := .range 0 0x7F

/-- The code points of an ASCII letter in both cases. -/
def asciiEquivalents (n : Nat) : List Nat :=
  if 0x41 ≤ n ∧ n ≤ 0x5A then [n, n + 0x20]
  else if 0x61 ≤ n ∧ n ≤ 0x7A then [n, n - 0x20]
  else [n]

/-- A set of ASCII characters with its letters in both cases. -/
def asciiClose (s : CharSet) : CharSet :=
  .ofRanges ((((List.range 0x80).filter s.containsCode).flatMap asciiEquivalents).map
    fun n => (n, n))

/-- A set with its letters in both cases. -/
def closeCase (f : Flags) (s : CharSet) : CharSet :=
  if f.unicode then Folding.close s else asciiClose s

/-- A set with its letters in both cases, if case does not matter. -/
def foldCase (f : Flags) (s : CharSet) : CharSet :=
  if f.anyCase then closeCase f s else s

/-- A set or its complement.  Without classes of Unicode a set holds single octets,
and the complement of one would hold octets that are parts of characters. -/
def negate? (f : Flags) (negated : Bool) (s : CharSet) : Option CharSet :=
  if !negated then some s
  else if f.unicode then some s.complement
  else none

/-- A class with a one-letter escape. -/
def ShortClass.set? (c : ShortClass) (f : Flags) (negated : Bool) : Option CharSet :=
  negate? f negated <|
    match c, f.unicode with
    | .digit, true => digitChars
    | .space, true => spaceChars
    | .word, true => wordChars
    | .digit, false => .ofLine "30-39"
    | .space, false => .ofLine "9-D 20"
    | .word, false => asciiWordChars

/-- A property name or value without what does not count: blanks, hyphens,
underscores, letter case, characters beyond ASCII and a leading `is`. -/
def symbolicName (name : String) : String :=
  let cs := name.toList
  let is := (cs.take 2).map Char.toLower == ['i', 's']
  let kept := ((if is then cs.drop 2 else cs).filter fun c =>
    c != ' ' && c != '_' && c != '-' && c.toNat < 0x80).map Char.toLower
  -- The name of the category Other is kept apart from the property ISO_Comment.
  if is && kept == ['c'] then "isc" else String.ofList kept

/-- The characters with a general category. -/
def generalCategory? (loose : String) : Option CharSet :=
  match loose with
  | "any" => some .full
  | "assigned" => some (Category.ofShortName "Cn").complement
  | "ascii" => some asciiChars
  | _ => Category.ofName? loose

/-- The characters of a class of Unicode.  A name alone is that of a binary property,
of a general category or of a script; three short names are those of categories,
although properties share them. -/
def UnicodeQuery.set? : UnicodeQuery → Option CharSet
  | .name written =>
    let n := symbolicName written
    let property := if n == "cf" || n == "sc" || n == "lc" then none else Property.ofName? n
    match property with
    | some s => some s
    | none =>
      match generalCategory? n with
      | some s => some s
      | none => Script.ofName? n
  | .value property written =>
    let v := symbolicName written
    match symbolicName property with
    | "gc" | "generalcategory" => generalCategory? v
    | "sc" | "script" => Script.ofName? v
    | "scx" | "scriptextensions" => Script.extensionsOfName? v
    | "age" => Age.ofName? v
    | "gcb" | "graphemeclusterbreak" => Grapheme.ofName? v
    | _ => none

/-- The characters of a class of Unicode under the flags in force. -/
def UnicodeQuery.setUnder? (q : UnicodeQuery) (f : Flags) (negated : Bool) : Option CharSet :=
  if f.unicode then q.set?.bind fun s => negate? f negated (foldCase f s) else none

/-- The code point of a member of a bracketed set.  Without classes of Unicode it must
be that of an ASCII character. -/
def Literal.member? (l : Literal) (f : Flags) : Option Nat :=
  if f.unicode || l.char.toNat < 0x80 then some l.char.toNat else none

/-- What an operator makes of two sets. -/
def SetOp.apply : SetOp → CharSet → CharSet → CharSet
  | .inter => .inter
  | .diff => .diff
  | .symmDiff => .symmDiff

mutual

/-- The characters of a member of a bracketed set. -/
def SetItem.set? (f : Flags) : SetItem → Option CharSet
  | .empty => some .empty
  | .literal l => (l.member? f).map .single
  | .range lo hi => do return .range (← lo.member? f) (← hi.member? f)
  | .ascii table negated => negate? f negated (foldCase f (.ofLine table))
  | .short c negated => c.set? f negated
  | .unicode q negated => q.setUnder? f negated
  | .bracketed negated set => do negate? f negated (foldCase f (← SetItem.set? f set))
  | .union items => SetItem.setAll? f items
  | .op sign lhs rhs => do
    let l ← SetItem.set? f lhs
    let r ← SetItem.set? f rhs
    return sign.apply (foldCase f l) (foldCase f r)

/-- The characters of all members in a row. -/
def SetItem.setAll? (f : Flags) : List SetItem → Option CharSet
  | [] => some .empty
  | item :: rest => do
    let s ← SetItem.set? f item
    let t ← SetItem.setAll? f rest
    return s.union t

end

/-! ## Characters and places -/

/-- A literal character.  Without classes of Unicode, one written as an octet beyond
ASCII would be a part of a character. -/
def Literal.meaning? (l : Literal) (f : Flags) : Option Regular :=
  let n := l.char.toNat
  if !f.unicode && l.octet && 0x7F < n then none
  else if !f.anyCase then some (.chars (.single n))
  else
    let codes := if f.unicode then Folding.equivalents n else asciiEquivalents n
    some (.chars (.ofRanges (codes.map fun m => (m, m))))

/-- The dot. -/
def dot? (f : Flags) : Option Regular :=
  if !f.unicode then none
  else if f.dotAll then some (.chars .full)
  else if f.crlf then some (.chars (CharSet.ofLine "A D").complement)
  else some (.chars (CharSet.single 0xA).complement)

/-- The condition an anchor stands for. -/
def Anchor.look (a : Anchor) (f : Flags) : Look :=
  let word := if f.unicode then wordChars else asciiWordChars
  match a with
  | .caret => if f.multiLine then (if f.crlf then .crlfStart else .lineStart) else .textStart
  | .dollar => if f.multiLine then (if f.crlf then .crlfEnd else .lineEnd) else .textEnd
  | .textStart => .textStart
  | .textEnd => .textEnd
  | .wordBoundary => .boundary word
  | .noWordBoundary => .noBoundary word
  | .wordStart => .wordStart word
  | .wordEnd => .wordEnd word
  | .wordStartHalf => .wordStartHalf word
  | .wordEndHalf => .wordEndHalf word

/-! ## Patterns -/

mutual

/-- The regular expression a pattern stands for, and the flags in force after it. -/
def Syntax.meaning : Syntax → Flags → Option (Regular × Flags)
  | .empty, f => some (.empty, f)
  | .flags changes, f => some (.empty, f.changeAll changes)
  | .literal l, f => (l.meaning? f).map (·, f)
  | .dot, f => (dot? f).map (·, f)
  | .anchor a, f => some (.look (a.look f), f)
  | .short c negated, f => (c.set? f negated).map (.chars ·, f)
  | .unicode q negated, f => (q.setUnder? f negated).map (.chars ·, f)
  | .bracketed negated set, f => do
    let s ← set.set? f
    let s ← negate? f negated (foldCase f s)
    return (.chars s, f)
  | .repeated body min max greedy, f => do
    let (r, f) ← Syntax.meaning body f
    return (.repeat' r min max (greedy != f.swapGreed), f)
  | .group (.capture index) body, f => do
    let (r, _) ← Syntax.meaning body f
    return (.capture index r, f)
  | .group (.flags changes) body, f => do
    let (r, _) ← Syntax.meaning body (f.changeAll changes)
    return (r, f)
  | .alternation choices, f => do
    let (rs, f) ← Syntax.meanings choices f
    return (.alternation rs, f)
  | .concat parts, f => do
    let (rs, f) ← Syntax.meanings parts f
    return (.concat rs, f)

/-- The regular expressions of patterns in a row, and the flags after the last. -/
def Syntax.meanings : List Syntax → Flags → Option (List Regular × Flags)
  | [], f => some ([], f)
  | s :: rest, f => do
    let (r, f) ← Syntax.meaning s f
    let (rs, f) ← Syntax.meanings rest f
    return (r :: rs, f)

end

end LogProblems.Pattern.Standard
