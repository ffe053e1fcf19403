import LogProblems.Text.Blank

/-!
# Messages

A message is gathered from fragments.  Each fragment is trimmed; blank fragments
are dropped, the others are joined by single spaces.  A message without fragments
has a text of its own.

* `push_fragments`: what adding a captured text does to the fragments.
-/

set_option autoImplicit false

namespace LogProblems.Matcher

/-- A message under way: its fragments, trimmed and not empty. -/
structure Message where
  fragments : List String := []
  deriving DecidableEq, Repr, Inhabited

namespace Message

/-- The text of a message without fragments. -/
def defaultText : String := "No message found."

/-- Adds a captured text, unless it is blank. -/
def push (m : Message) (captured : String) : Message :=
  let fragment := Text.trim captured
  if fragment.isEmpty then m else { fragments := m.fragments ++ [fragment] }

/-- The text of a message. -/
def text (m : Message) : String :=
  if m.fragments.isEmpty then defaultText else " ".intercalate m.fragments

/-- The trimmed text is added when it is not empty. -/
theorem push_fragments (m : Message) (captured : String) :
    (m.push captured).fragments
      = m.fragments ++ [Text.trim captured].filter (!·.isEmpty) := by
  by_cases h : (Text.trim captured).isEmpty <;> simp [push, h]

end Message

end LogProblems.Matcher
