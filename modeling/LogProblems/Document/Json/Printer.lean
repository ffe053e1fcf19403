/-!
# Writing JSON

`Tree.pretty` writes a value over several lines, two spaces for each level; an
empty list or record stays on one line.  Texts are written as they are, except
for the quote, the backslash and the control characters below U+0020.
-/

set_option autoImplicit false

namespace LogProblems.Document.Json

/-- A JSON value to be written; the entries of a record stand in order. -/
inductive Tree where
  | null
  | bool (b : Bool)
  | number (n : Nat)
  | text (s : String)
  | list (items : List Tree)
  | record (entries : List (String × Tree))
  deriving Repr, Inhabited

/-- A hexadecimal digit in lower case. -/
def hexChar (n : Nat) : Char :=
  if n < 10 then Char.ofNat ('0'.toNat + n) else Char.ofNat ('a'.toNat + (n - 10))

/-- A character inside a quoted text. -/
def escapeChar (c : Char) : List Char :=
  if c = '"' then ['\\', '"']
  else if c = '\\' then ['\\', '\\']
  else if 0x20 ≤ c.toNat then [c]
  else
    match c.toNat with
    | 0x08 => ['\\', 'b']
    | 0x09 => ['\\', 't']
    | 0x0A => ['\\', 'n']
    | 0x0C => ['\\', 'f']
    | 0x0D => ['\\', 'r']
    | n => ['\\', 'u', '0', '0', hexChar (n / 16), hexChar (n % 16)]

/-- A text between quotes. -/
def quote (s : String) : List Char :=
  '"' :: (s.toList.flatMap escapeChar ++ ['"'])

/-- A line break and the indentation of `level`. -/
def newline (level : Nat) : List Char :=
  '\n' :: List.replicate (2 * level) ' '

namespace Tree

mutual

/-- The characters of a value whose line is indented to `level`. -/
def chars (level : Nat) : Tree → List Char
  | .null => "null".toList
  | .bool b => (if b then "true" else "false").toList
  | .number n => (toString n).toList
  | .text s => quote s
  | .list [] => ['[', ']']
  | .list (t :: ts) =>
    '[' :: (newline (level + 1) ++ chars (level + 1) t ++ itemsChars level ts)
  | .record [] => ['\x7b', '\x7d']
  | .record ((key, t) :: es) =>
    '\x7b' :: (newline (level + 1) ++ quote key ++ ':' :: ' ' :: chars (level + 1) t
      ++ entriesChars level es)

/-- The items after the first, and the closing bracket. -/
def itemsChars (level : Nat) : List Tree → List Char
  | [] => newline level ++ [']']
  | t :: ts => ',' :: (newline (level + 1) ++ chars (level + 1) t ++ itemsChars level ts)

/-- The entries after the first, and the closing brace. -/
def entriesChars (level : Nat) : List (String × Tree) → List Char
  | [] => newline level ++ ['\x7d']
  | (key, t) :: es =>
    ',' :: (newline (level + 1) ++ quote key ++ ':' :: ' ' :: chars (level + 1) t
      ++ entriesChars level es)

end

/-- The text of a value, over several lines. -/
def pretty (t : Tree) : String :=
  String.ofList (t.chars 0)

end Tree

end LogProblems.Document.Json
