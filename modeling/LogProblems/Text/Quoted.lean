import LogProblems.Unicode.Category
import LogProblems.Unicode.Property

/-!
# Quoted texts

A text between double quotes in which every character can be seen: quotes and
backslashes are escaped, control characters have escapes of one letter or are
written by their code points, and so is every character without a shape of its own.
-/

set_option autoImplicit false

namespace LogProblems.Text

open LogProblems.Unicode

/-- The characters without a visible shape of their own: controls, format characters,
code points that stand for no character, separators, and marks that extend the
character before them. -/
def unseenChars : CharSet :=
  (Category.ofShortNames ["Cc", "Cf", "Cn", "Co", "Cs", "Zl", "Zp", "Zs"]).union
    (Property.named "Grapheme_Extend")

/-- A character between quotes. -/
def quoteChar (c : Char) : String :=
  if c == '"' then "\\\""
  else if c == '\\' then "\\\\"
  else if c == '\t' then "\\t"
  else if c == '\r' then "\\r"
  else if c == '\n' then "\\n"
  else if c.toNat == 0 then "\\0"
  else if c == ' ' || !unseenChars.contains c then String.singleton c
  else "\\u\x7b" ++ String.ofList (Nat.toDigits 16 c.toNat) ++ "\x7d"

/-- A text between quotes. -/
def quote (s : String) : String :=
  "\"" ++ String.join (s.toList.map quoteChar) ++ "\""

/-- Quoted texts between brackets. -/
def quoteList (ss : List String) : String :=
  "[" ++ ", ".intercalate (ss.map quote) ++ "]"

end LogProblems.Text
