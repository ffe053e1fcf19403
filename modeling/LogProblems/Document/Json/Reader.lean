import LogProblems.Document.Node
import LogProblems.Document.Json.Number

/-!
# Reading JSON

`read` takes a whole text and gives its node, or nothing when the text is not
JSON: no comments, no trailing commas, no byte order mark, one value and then
only white space.

A text with a lone surrogate, a number beyond the range of a 64-bit float and a
value nested more than `nestingLimit` deep are JSON all the same; such a node can
be passed over but not read.  Repeated keys are kept, in order.
-/

set_option autoImplicit false

namespace LogProblems.Document.Json

open LogProblems.Text

/-- How deep a value may be nested and still be read. -/
def nestingLimit : Nat := 127

/-- The white space of JSON. -/
def isSpace (c : Char) : Bool :=
  c == ' ' || c == '\n' || c == '\t' || c == '\r'

/-- The text after its leading white space. -/
def skipSpace (cs : List Char) : List Char :=
  cs.dropWhile isSpace

/-- The value of four hexadecimal digits. -/
def hexUnit? (a b c d : Char) : Option Nat := do
  let a ← hexDigit? a
  let b ← hexDigit? b
  let c ← hexDigit? c
  let d ← hexDigit? d
  return ((a * 16 + b) * 16 + c) * 16 + d

/-! ## Texts -/

/-- A text being read: its characters so far, last first, a leading surrogate
still without its partner, and whether every surrogate so far had one. -/
structure Draft where
  chars : List Char := []
  leading : Option Nat := none
  sound : Bool := true

namespace Draft

/-- Adds a character. -/
def push (d : Draft) (c : Char) : Draft :=
  { chars := c :: d.chars, leading := none, sound := d.sound && d.leading.isNone }

/-- Adds a UTF-16 unit, joining the two halves of a surrogate pair. -/
def pushUnit (d : Draft) (u : Nat) : Draft :=
  if 0xD800 ≤ u ∧ u < 0xDC00 then
    { d with leading := some u, sound := d.sound && d.leading.isNone }
  else if 0xDC00 ≤ u ∧ u < 0xE000 then
    match d.leading with
    | some lead =>
      { chars := Char.ofNat (0x10000 + (lead - 0xD800) * 0x400 + (u - 0xDC00)) :: d.chars,
        leading := none, sound := d.sound }
    | none => { d with sound := false }
  else d.push (Char.ofNat u)

/-- The finished text, unless it holds a surrogate without partner. -/
def finish (d : Draft) : Option String :=
  if d.sound && d.leading.isNone then some (String.ofList d.chars.reverse) else none

end Draft

/-- The character that a one-letter escape stands for. -/
def escapedChar? : Char → Option Char
  | '"' => some '"'
  | '\\' => some '\\'
  | '/' => some '/'
  | 'b' => some (Char.ofNat 0x08)
  | 'f' => some (Char.ofNat 0x0C)
  | 'n' => some '\n'
  | 'r' => some '\r'
  | 't' => some '\t'
  | _ => none

/-- Reads a text from behind its opening quote; the text itself is absent when it
holds a lone surrogate. -/
def textBody (d : Draft) : List Char → Option (Option String × List Char)
  | [] => none
  | '"' :: rest => some (d.finish, rest)
  | '\\' :: 'u' :: w :: x :: y :: z :: rest =>
    match hexUnit? w x y z with
    | some u => textBody (d.pushUnit u) rest
    | none => none
  | '\\' :: c :: rest =>
    match escapedChar? c with
    | some e => textBody (d.push e) rest
    | none => none
  | c :: rest =>
    if c.toNat < 0x20 || c == '\\' then none else textBody (d.push c) rest

/-! ## Values -/

/-- The node of a text. -/
def textNode : Option String → Node
  | some s => .leaf ⟨some (.text s), some s, none, .present, false⟩
  | none => .unreadable

/-- The node of a truth value. -/
def boolNode (b : Bool) : Node :=
  .leaf ⟨some (.bool b), none, some b, .present, false⟩

/-- The node of null. -/
def nullNode : Node :=
  .leaf ⟨some .null, none, none, .absent, false⟩

/-- The node of a numeral. -/
def numeralNode : Numeral → Node
  | .natural n => .leaf ⟨some (.index n), none, none, .present, false⟩
  | .other => .leaf ⟨some .number, none, none, .present, false⟩
  | .beyond => .leaf ⟨none, none, none, .present, false⟩

/-- A nested node, which can be read only while there is room for it. -/
def nested (room : Nat) (n : Node) : Node :=
  if room = 0 then .unreadable else n

mutual

/-- Reads a value with at most `fuel` steps and `room` for nesting. -/
def value? : Nat → Nat → List Char → Option (Node × List Char)
  | 0, _, _ => none
  | fuel + 1, room, cs =>
    match skipSpace cs with
    | 'n' :: 'u' :: 'l' :: 'l' :: rest => some (nullNode, rest)
    | 't' :: 'r' :: 'u' :: 'e' :: rest => some (boolNode true, rest)
    | 'f' :: 'a' :: 'l' :: 's' :: 'e' :: rest => some (boolNode false, rest)
    | '"' :: rest =>
      match textBody {} rest with
      | some (s, rest) => some (textNode s, rest)
      | none => none
    | '[' :: rest =>
      match skipSpace rest with
      | ']' :: rest => some (nested room (.list [] true), rest)
      | rest =>
        match items? fuel (room - 1) rest with
        | some (items, rest) => some (nested room (.list items true), rest)
        | none => none
    | '\x7b' :: rest =>
      match skipSpace rest with
      | '\x7d' :: rest => some (nested room (.record []), rest)
      | rest =>
        match entries? fuel (room - 1) rest with
        | some (entries, rest) => some (nested room (.record entries), rest)
        | none => none
    | cs =>
      match numeral? cs with
      | some (n, rest) => some (numeralNode n, rest)
      | none => none

/-- Reads the items of a list up to its closing bracket. -/
def items? : Nat → Nat → List Char → Option (List Node × List Char)
  | 0, _, _ => none
  | fuel + 1, room, cs =>
    match value? fuel room cs with
    | none => none
    | some (n, rest) =>
      match skipSpace rest with
      | ']' :: rest => some ([n], rest)
      | ',' :: rest =>
        match items? fuel room rest with
        | some (ns, rest) => some (n :: ns, rest)
        | none => none
      | _ => none

/-- Reads the entries of a record up to its closing brace. -/
def entries? : Nat → Nat → List Char → Option (List (Node × Node) × List Char)
  | 0, _, _ => none
  | fuel + 1, room, cs =>
    match skipSpace cs with
    | '"' :: rest =>
      match textBody {} rest with
      | none => none
      | some (key, rest) =>
        match skipSpace rest with
        | ':' :: rest =>
          match value? fuel room rest with
          | none => none
          | some (n, rest) =>
            match skipSpace rest with
            | '\x7d' :: rest => some ([(textNode key, n)], rest)
            | ',' :: rest =>
              match entries? fuel room rest with
              | some (es, rest) => some ((textNode key, n) :: es, rest)
              | none => none
            | _ => none
        | _ => none
    | _ => none

end

/-- Reads a whole text as one value. -/
def read (s : String) : Option Node :=
  let cs := s.toList
  match value? (cs.length + 1) nestingLimit cs with
  | some (n, rest) => if (skipSpace rest).isEmpty then some n else none
  | none => none

end LogProblems.Document.Json
