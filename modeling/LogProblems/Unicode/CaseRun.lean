/-!
# Runs of letters

Letters of one case lie in runs, at every code point or at every second one, and a
whole run changes case by adding one number.  Case mappings are lists of such runs,
in order, which can be inspected by evaluation.
-/

set_option autoImplicit false

namespace LogProblems.Unicode

/-- A run of letters: every `stride`-th code point from `first` to `last` changes
case by adding `offset`. -/
structure CaseRun where
  first : Nat
  last : Nat
  stride : Nat
  offset : Int
  deriving DecidableEq, Repr

namespace CaseRun

/-- The run holds a code point. -/
def covers (r : CaseRun) (n : Nat) : Bool :=
  r.first ≤ n && n ≤ r.last && (n - r.first) % r.stride == 0

/-- A code point of the run after its change of case. -/
def shift (r : CaseRun) (n : Nat) : Nat :=
  (n + r.offset).toNat

/-- The code points of the run. -/
def members (r : CaseRun) : List Nat :=
  (List.range ((r.last - r.first) / r.stride + 1)).map fun i => r.first + i * r.stride

/-- A code point after a change of case; one in no run stays. -/
def shifted (runs : List CaseRun) (n : Nat) : Nat :=
  match runs.find? (·.covers n) with
  | some r => r.shift n
  | none => n

end CaseRun

end LogProblems.Unicode
