import LogProblems.Pattern.Basic
import LogProblems.Pattern.Automaton
import LogProblems.Pattern.Extended.Search
import LogProblems.Pattern.Footprint
import LogProblems.Pattern.Standard.Meaning
import LogProblems.Pattern.Standard.Reader

/-!
# Compiling patterns

A pattern is read in the standard notation if it can be and its automaton is not too
large, and in the extended one otherwise.
-/

set_option autoImplicit false

namespace LogProblems.Pattern

/-- A pattern in the standard notation. -/
def standard? (source : String) : Option Pattern := do
  let (written, groups) ← Standard.read source
  let (meaning, _) ← written.meaning {}
  if !meaning.fits then none
  let automaton := Automaton.ofRegular meaning (groups + 1)
  return {
    source
    dialect := .standard
    find := fun text =>
      let chars := text.toList.toArray
      (automaton.search chars).map fun slots => ⟨groupTexts chars slots (groups + 1)⟩ }

/-- A pattern in the extended notation. -/
def extended? (source : String) : Option Pattern := do
  let (written, cursor) ← Extended.read source
  let program ← Extended.meaning? written cursor
  return {
    source
    dialect := .extended
    find := fun text =>
      let chars := text.toList.toArray
      (program.search chars).map fun slots => ⟨groupTexts chars slots program.groups.size⟩ }

/-- A pattern in the first notation that it is written in. -/
def compile? (source : String) : Option Pattern :=
  (standard? source).or (extended? source)

end LogProblems.Pattern
