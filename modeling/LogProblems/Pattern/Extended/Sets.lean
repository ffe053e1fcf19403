import LogProblems.Pattern.Regular
import LogProblems.Unicode.Block
import LogProblems.Unicode.Folding
import LogProblems.Unicode.Script

/-!
# Named sets of the extended notation

The sets behind one-letter escapes, bracketed names and properties.  Four options
cut the general ones down to ASCII.
-/

set_option autoImplicit false

namespace LogProblems.Pattern.Extended

open LogProblems.Unicode

/-- The options in force. -/
structure Options where
  /-- Letters match in any case. -/
  anyCase : Bool := false
  /-- The dot matches line feeds too. -/
  dotAll : Bool := false
  /-- Blanks and comments in the pattern are passed over. -/
  verbose : Bool := false
  /-- Words are of ASCII characters. -/
  asciiWords : Bool := false
  /-- Digits are ASCII digits. -/
  asciiDigits : Bool := false
  /-- Space is ASCII space. -/
  asciiSpaces : Bool := false
  /-- All bracketed names stand for sets of ASCII characters. -/
  asciiNames : Bool := false
  /-- A letter matches one character only, as it must where the length counts. -/
  oneForOne : Bool := false
  deriving DecidableEq, Repr, Inhabited

/-- The characters of a set that an option leaves. -/
def limitTo (ascii : Bool) (s : CharSet) : CharSet :=
  if ascii then s.inter (.range 0 0x7F) else s

/-- The characters of words as a member of a bracketed set. -/
def wordSet : CharSet :=
  .ofRanges ((Property.named "Alphabetic").ranges.toList
    ++ (Category.ofShortNames ["Mc", "Me", "Mn", "Nd", "Pc"]).ranges.toList)

/-- The characters of words elsewhere: the superscripts and fractions of Latin-1 are
words there. -/
def plainWordSet : CharSet :=
  wordSet.union (.ofLine "B2-B3 B9 BC-BE")

/-- The characters of words as a member of a bracketed set, under options. -/
def Options.wordMembers (o : Options) : CharSet :=
  limitTo (o.asciiWords || o.asciiNames) wordSet

/-- The characters of words under options. -/
def Options.words (o : Options) : CharSet :=
  limitTo (o.asciiWords || o.asciiNames) plainWordSet

/-- The digits under options. -/
def Options.digits (o : Options) : CharSet :=
  limitTo (o.asciiDigits || o.asciiNames) digitChars

/-- The space under options. -/
def Options.spaces (o : Options) : CharSet :=
  limitTo (o.asciiSpaces || o.asciiNames) spaceChars

/-- The hexadecimal digits. -/
def hexDigits : CharSet := .ofLine "30-39 41-46 61-66"

/-- The characters with a shape. -/
def graphSet : CharSet :=
  (spaceChars.union (Category.ofShortNames ["Cc", "Cn", "Cs"])).complement

/-- The sets with a name in brackets. -/
def namedSet? (o : Options) (name : String) : Option CharSet :=
  let general (s : CharSet) : Option CharSet := some (limitTo o.asciiNames s)
  match name with
  | "alnum" => general ((Property.named "Alphabetic").union digitChars)
  | "alpha" => general (Property.named "Alphabetic")
  | "blank" => general ((Category.ofShortName "Zs").union (.single 9))
  | "cntrl" => general (Category.ofShortName "Cc")
  | "digit" => some o.digits
  | "graph" => general graphSet
  | "lower" => general (Property.named "Lowercase")
  | "print" => general (graphSet.union (Category.ofShortName "Zs"))
  | "punct" =>
    general ((Category.ofShortNames ["Pc", "Pd", "Pe", "Pf", "Pi", "Po", "Ps"]).union
      (.ofLine "24 2B 3C-3E 5E 60 7C 7E"))
  | "space" => some o.spaces
  | "upper" => general (Property.named "Uppercase")
  | "xdigit" => some hexDigits
  | "ascii" => some (.range 0 0x7F)
  | "word" => some o.wordMembers
  | _ => none

/-- A property's name without blanks, hyphens, underscores and letter case; a name with
a character beyond ASCII stands for nothing. -/
def looseProperty? (name : List Char) : Option String :=
  let kept := name.filter fun c => c != ' ' && c != '-' && c != '_'
  if kept.all (·.toNat < 0x80) then some (String.ofList (kept.map Char.toLower)) else none

/-- The characters of a block, which is named with a leading `in`, or of none. -/
def blockSet? (loose : String) : Option CharSet :=
  match loose.toList with
  | 'i' :: 'n' :: name =>
    let name := String.ofList name
    if name == "noblock" then some Block.outside else Block.ofName? name
  | _ => none

/-- The characters with a property: one of the names in brackets, a general category,
a script, a binary property or a block. -/
def propertySet? (o : Options) (name : List Char) : Option CharSet := do
  let loose ← looseProperty? name
  match namedSet? o loose with
  | some s => return s
  | none =>
    match loose with
    | "any" => return .full
    | "assigned" => return (Category.ofShortName "Cn").complement
    | _ =>
      match Category.ofName? loose with
      | some s => return s
      | none =>
        match Script.ofName? loose with
        | some s => return s
        | none => (Property.ofName? loose).or (blockSet? loose)

end LogProblems.Pattern.Extended
