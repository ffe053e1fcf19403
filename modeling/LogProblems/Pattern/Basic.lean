/-!
# Patterns

A pattern is a regular expression that has been read.  All that the rest of the
library uses of it is the function from a text to the groups of the first match,
so everything proved about matchers holds for any such function.
-/

set_option autoImplicit false

namespace LogProblems

/-- The groups of a match.  Group 0 is the whole match; a group that took no part
is `none`. -/
structure Groups where
  texts : List (Option String)
  deriving DecidableEq, Repr, Inhabited

/-- The text of a group that exists and took part in the match. -/
def Groups.get? (g : Groups) (i : Nat) : Option String :=
  (g.texts[i]?).join

/-- A group number beyond the last group names no text. -/
theorem Groups.get?_of_length_le {g : Groups} {i : Nat} (h : g.texts.length ≤ i) :
    g.get? i = none := by
  simp [Groups.get?, h]

/-- The two notations for regular expressions. -/
inductive Dialect where
  /-- The standard notation, searched in time linear in the text. -/
  | standard
  /-- The extended notation with look-around and back-references, searched by
  backtracking. -/
  | extended
  deriving DecidableEq, Repr, Inhabited

/-- A regular expression that has been read. -/
structure Pattern where
  source : String
  dialect : Dialect
  /-- The groups of the first match in a text. -/
  find : String → Option Groups

end LogProblems
