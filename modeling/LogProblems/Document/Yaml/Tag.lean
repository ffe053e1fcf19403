import LogProblems.Document.Yaml.Token
import LogProblems.Text.Integer
import LogProblems.Text.Utf8

/-!
# Tags, anchors and directives

A tag names the type of a node.  It is written whole between angle brackets, or as a
handle between exclamation marks and a suffix; what a handle stands for is said by a
directive at the start of the document.  A suffix may hold percent signs, each before two
hexadecimal digits, that spell out octets of UTF-8.
-/

set_option autoImplicit false

namespace LogProblems.Document.Yaml

open LogProblems.Text

/-! ## Anchors -/

/-- Reads the name of an anchor from behind its indicator. -/
def anchorName? (c : Cursor) : Option (String × Cursor) :=
  let (name, c) := c.span isWordChar
  let ends := atGap c.rest ||
    (c.rest.head?.map fun x => "?:,]\x7d%@\x60".toList.contains x) == some true
  if name.isEmpty || !ends then none else some (String.ofList name, c)

/-! ## Tags -/

/-- A character that may stand in a tag; commas and brackets only in one written whole. -/
def isTagChar (whole : Bool) (c : Char) : Bool :=
  isWordChar c || ";/?:@&=+$.%!~*'()".toList.contains c || (whole && ",[]".toList.contains c)

/-- The number of octets of the character that this octet starts. -/
def sequenceLength? (octet : Nat) : Option Nat :=
  if octet < 0x80 then some 1
  else if 0xC0 ≤ octet ∧ octet < 0xE0 then some 2
  else if 0xE0 ≤ octet ∧ octet < 0xF0 then some 3
  else if 0xF0 ≤ octet ∧ octet < 0xF8 then some 4
  else none

/-- Reads the octets of a tag up to the first character that may not stand in it; `owed`
octets of a character that was spelled out in part must follow. -/
def tagOctets? (whole : Bool) (owed : Nat) (p : Place) :
    List Char → Option (List UInt8 × Cursor)
  | [] => if owed = 0 then some ([], ⟨p, []⟩) else none
  | '%' :: x :: y :: rest => do
    let octet := 16 * (← hexDigit? x) + (← hexDigit? y)
    let owed ←
      if owed = 0 then (sequenceLength? octet).map (· - 1)
      else if 0x80 ≤ octet ∧ octet < 0xC0 then some (owed - 1)
      else none
    let (octets, c) ← tagOctets? whole owed (p.after 3) rest
    return (octet.toUInt8 :: octets, c)
  | x :: rest =>
    if owed ≠ 0 || x == '%' then none
    else if isTagChar whole x then do
      let (octets, c) ← tagOctets? whole 0 (p.after 1) rest
      return (x.toNat.toUInt8 :: octets, c)
    else some ([], ⟨p, x :: rest⟩)

/-- Reads the octets of a tag. -/
def Cursor.tagOctets? (c : Cursor) (whole : Bool) : Option (List UInt8 × Cursor) :=
  Yaml.tagOctets? whole 0 c.place c.rest

/-- Reads a handle: an exclamation mark, a word and, where there is one, another mark. -/
def handle? (c : Cursor) : Option (String × Cursor) := do
  let (word, c) := (← c.expect? '!').span isWordChar
  match c.expect? '!' with
  | some c => return (String.ofList ('!' :: word ++ ['!']), c)
  | none => return (String.ofList ('!' :: word), c)

/-- A handle with a mark at both ends. -/
def isClosedHandle (handle : String) : Bool :=
  1 < handle.length && handle.endsWith "!"

/-- Reads a tag from its indicator on: a handle, empty for a whole tag, and a suffix. -/
def tagToken? (c : Cursor) : Option (Token × Cursor) :=
  match c.rest with
  | '!' :: '<' :: _ => do
    let (octets, c) ← (c.drop 2).tagOctets? true
    let c ← c.expect? '>'
    if octets.isEmpty then none else some (.tag "" octets, c)
  | _ => do
    let (handle, c) ← handle? c
    let (octets, c) ← c.tagOctets? false
    if isClosedHandle handle then
      if octets.isEmpty then none else some (.tag handle octets, c)
    else
      let octets := Utf8.encode (handle.drop 1).toString ++ octets
      if octets.isEmpty then some (.tag "" [0x21], c) else some (.tag "!" octets, c)

/-! ## Directives -/

/-- The greatest number of digits of a version number. -/
def versionDigits : Nat := 9

/-- Reads a part of a version number. -/
def versionPart? (c : Cursor) : Option (Nat × Cursor) :=
  let (digits, c) := c.span isDigit
  if digits.isEmpty || versionDigits < digits.length then none else some (digitsValue digits, c)

/-- Reads a directive from its indicator on, with its line end. -/
def directive? (c : Cursor) : Option (Token × Cursor) := do
  let (name, c) := (c.drop 1).span isWordChar
  if !atGap c.rest then none
  else
    let c' := c.dropWhile isGap
    if name == "YAML".toList then
      let (major, c) ← versionPart? c'
      let (minor, c) ← versionPart? (← c.expect? '.')
      return (.version major minor, ← c.endLine?)
    else if name == "TAG".toList then
      let (handle, c) ← handle? c'
      let blank := c.rest.head?.map isGap
      let (octets, c) ← (c.dropWhile isGap).tagOctets? true
      if (isClosedHandle handle || handle == "!") && blank == some true && !octets.isEmpty
          && atGap c.rest then
        return (.shorthand handle octets, ← c.endLine?)
      else none
    else none

end LogProblems.Document.Yaml
