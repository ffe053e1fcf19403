import LogProblems.Document.Json.Number
import LogProblems.Document.Node
import LogProblems.Document.Yaml.Tree

/-!
# What scalars of YAML stand for

A plain scalar stands for null, a truth value or a number if it is spelled like one, and
for a text otherwise; every other scalar stands for a text.  A tag may demand a type.
Readers that want a certain kind look at the spelling alone.
-/

set_option autoImplicit false

namespace LogProblems.Document.Yaml

open LogProblems.Text

/-! ## Spellings -/

/-- Null, written out. -/
def isNull (s : String) : Bool :=
  ["null", "Null", "NULL", "~"].contains s

/-- A truth value. -/
def bool? (s : String) : Option Bool :=
  if ["true", "True", "TRUE"].contains s then some true
  else if ["false", "False", "FALSE"].contains s then some false
  else none

/-- A plus or a minus sign. -/
def isSign (c : Char) : Bool :=
  c == '+' || c == '-'

/-- The text starts with a sign. -/
def isSigned (cs : List Char) : Bool :=
  (cs.head?.map isSign) == some true

/-- Several digits, of which the first is zero, perhaps after a sign: no number. -/
def isPadded (cs : List Char) : Bool :=
  let digits := if isSigned cs then cs.drop 1 else cs
  1 < digits.length && digits.head? == some '0' && digits.all isDigit

/-- The number that some digits write in a radix. -/
def digits? (radix : Nat) (cs : List Char) : Option Nat :=
  if cs.isEmpty then none
  else cs.foldlM (fun n c => do
    let d ← hexDigit? c
    if d < radix then some (radix * n + d) else none) 0

/-- The number after a mark for its radix. -/
def withRadix? (cs : List Char) : Option Nat :=
  match cs with
  | '0' :: 'x' :: rest => digits? 16 rest
  | '0' :: 'o' :: rest => digits? 8 rest
  | '0' :: 'b' :: rest => digits? 2 rest
  | _ => none

/-- A natural number: decimal, or with a mark for its radix. -/
def natural? (cs : List Char) : Option Nat :=
  let unsigned := if cs.head? == some '+' then cs.drop 1 else cs
  (withRadix? unsigned).or (if isPadded cs then none else digits? 10 unsigned)

/-- The amount of a number with a minus sign. -/
def negative? (cs : List Char) : Option Nat :=
  match cs with
  | '-' :: rest => (withRadix? rest).or (if isPadded cs then none else digits? 10 rest)
  | _ => none

/-- A whole number of at most 128 bits; one that needs more than 64 cannot be read. -/
def integer? (cs : List Char) : Option (Option Value) :=
  match natural? cs, negative? cs with
  | some n, _ =>
    if n < 1 <<< 64 then some (some (.index n)) else if n < 1 <<< 128 then some none else none
  | none, some n =>
    if n = 0 then some (some (.index 0))
    else if n ≤ 1 <<< 63 then some (some .number)
    else if n ≤ 1 <<< 127 then some none
    else none
  | none, none => none

/-- A decimal number in the range of a 64-bit float: digits with at most one point among
or beside them, and perhaps an exponent. -/
def isDecimal (cs : List Char) : Bool :=
  let cs := if isSigned cs then cs.drop 1 else cs
  let whole := cs.takeWhile isDigit
  let cs := cs.drop whole.length
  let (fraction, cs) :=
    match cs with
    | '.' :: rest => (rest.takeWhile isDigit, rest.dropWhile isDigit)
    | rest => ([], rest)
  let exponent :=
    match cs with
    | [] => some (0, [])
    | c :: rest => if c == 'e' || c == 'E' then Json.exponent? rest else none
  match exponent with
  | some (e, []) =>
    let digits := whole ++ fraction
    !digits.isEmpty && !Json.exceedsFloat digits (e - fraction.length)
  | _ => false

/-- A number that is perhaps not whole. -/
def isFloat (cs : List Char) : Bool :=
  let unsigned := if cs.head? == some '+' then cs.drop 1 else cs
  let s := String.ofList cs
  if cs.head? == some '+' && isSigned unsigned then false
  else [".inf", ".Inf", ".INF"].contains (String.ofList unsigned)
    || ["-.inf", "-.Inf", "-.INF", ".nan", ".NaN", ".NAN"].contains s
    || isDecimal unsigned

/-! ## Scalars -/

/-- What a plain scalar without a tag stands for. -/
def plainValue? (s : String) : Option Value :=
  if s.isEmpty || isNull s then some .null
  else
    match bool? s, integer? s.toList with
    | some b, _ => some (.bool b)
    | none, some v => v
    | none, none =>
      if !isPadded s.toList && isFloat s.toList then some .number else some (.text s)

/-- What a scalar stands for where any kind will do. -/
def scalarValue? (tag : Option Tag) (style : Style) (s : String) : Option Value :=
  match tag with
  | some .bool => (bool? s).map .bool
  | some .int => (integer? s.toList).join
  | some .float => if isFloat s.toList then some .number else none
  | some .null => if isNull s then some .null else none
  | some .marking => none
  | some .other => some (.text s)
  | some .hidden => if style == .plain then plainValue? s else some (.text s)
  | none => if style == .plain then plainValue? s else some (.text s)

/-- What a scalar stands for where a truth value is wanted. -/
def scalarFlag? (tag : Option Tag) (style : Style) (s : String) : Option Bool :=
  if style == .plain || (style == .literal && tag == some .bool) then bool? s else none

/-- Whether a scalar stands for a value that is left out. -/
def scalarPresence (tag : Option Tag) (style : Style) (s : String) : Presence :=
  if style != .plain then .present
  else
    match tag with
    | some .null => if isNull s then .absent else .refused
    | some _ => .present
    | none => if s.isEmpty || isNull s then .absent else .present

/-- A private tag marks its node. -/
def mark (p : Properties) (n : Node) : Node :=
  if p.tag == some .marking then .marked n else n

/-- The node of a scalar. -/
def scalarNode (p : Properties) (style : Style) (s : String) : Node :=
  mark p (.leaf
    { free := scalarValue? p.tag style s
      text := some s
      flag := scalarFlag? p.tag style s
      presence := scalarPresence p.tag style s
      blank := style == .plain && s.isEmpty })

/-- The node of an empty text: nothing is there. -/
def voidNode : Node :=
  .leaf { free := some .null, text := none, flag := none, presence := .absent, blank := true }

end LogProblems.Document.Yaml
