import Mathlib.Data.Nat.Digits.Defs
import LogProblems.Proofs.Matcher.Position

/-!
# Combined locations

A combined location is a text with numbers in it, and what stands between the numbers does
not matter.  The numbers are read into signed words, one that does not fit is taken for the
end of a line, and what comes of them is counted down and clamped.  None of that shows: the
range is the one that the numbers mean when they are read as natural numbers of any size.

* `runs_iff`: the runs of digits that are read are the maximal ones;
* `runValue_eq_saturated`: the word that a run is read as;
* `settle_saturated`: counting down and clamping hide that the word is not the number;
* `combined_location_exact`: the range of a combined location.
-/

set_option autoImplicit false

namespace LogProblems.Matcher

open LogProblems.Text

/-! ## Numbers in a text -/

/-- The number that decimal digits write, whatever its size. -/
def decimal (run : List Char) : Nat :=
  Nat.ofDigits 10 (run.reverse.map fun c => c.toNat - '0'.toNat)

/-- The maximal runs of ASCII digits in a text: anything else stands between them, and
something stands between any two. -/
inductive Runs : List Char → List (List Char) → Prop
  | none {gap : List Char} (hgap : ∀ c ∈ gap, c.isDigit = false) : Runs gap []
  | next {gap run rest : List Char} {runs : List (List Char)}
      (hgap : ∀ c ∈ gap, c.isDigit = false) (hne : run ≠ [])
      (hrun : ∀ c ∈ run, c.isDigit = true) (hmaximal : ∀ c ∈ rest.head?, c.isDigit = false)
      (hrest : Runs rest runs) : Runs (gap ++ (run ++ rest)) (run :: runs)

theorem digitsValue_eq_decimal (digits : List Char) : digitsValue digits = decimal digits := by
  rw [digitsValue, decimal, Nat.ofDigits_eq_foldr, List.foldr_map, List.foldr_reverse]
  simp only [Nat.cast_id, Nat.add_comm]

theorem isDigit_eq (c : Char) : isDigit c = c.isDigit :=
  rfl

theorem digitRunsFrom_gap {gap : List Char} (h : ∀ c ∈ gap, c.isDigit = false)
    (rest : List Char) : digitRunsFrom [] (gap ++ rest) = digitRunsFrom [] rest := by
  induction gap with
  | nil => rfl
  | cons c gap ih =>
    obtain ⟨hc, hgap⟩ := List.forall_mem_cons.1 h
    simp [digitRunsFrom, isDigit_eq, hc, ih hgap]

theorem digitRunsFrom_run {run rest : List Char} (hrun : ∀ c ∈ run, c.isDigit = true)
    (hmaximal : ∀ c ∈ rest.head?, c.isDigit = false) {begun : List Char}
    (hne : begun.reverse ++ run ≠ []) :
    digitRunsFrom begun (run ++ rest) = (begun.reverse ++ run) :: digitRunsFrom [] rest := by
  induction run generalizing begun with
  | nil =>
    have hbegun : begun ≠ [] := by simpa using hne
    cases rest with
    | nil => simp [digitRunsFrom, hbegun]
    | cons c rest => simp [digitRunsFrom, isDigit_eq, hbegun, hmaximal c rfl]
  | cons c run ih =>
    obtain ⟨hc, hrest⟩ := List.forall_mem_cons.1 hrun
    have hbegun : (c :: begun).reverse ++ run = begun.reverse ++ c :: run := by simp
    rw [List.cons_append, digitRunsFrom, isDigit_eq, if_pos hc,
      ih hrest (by rw [hbegun]; exact hne), hbegun]

namespace Runs

variable {cs : List Char} {runs : List (List Char)}

theorem eq_digitRunsFrom (h : Runs cs runs) : digitRunsFrom [] cs = runs := by
  induction h with
  | @none gap hgap =>
    rw [← List.append_nil gap, digitRunsFrom_gap hgap]
    rfl
  | @next gap run rest runs hgap hne hrun hmaximal hrest ih =>
    have hbegun : [].reverse ++ run ≠ [] := hne
    rw [digitRunsFrom_gap hgap, digitRunsFrom_run hrun hmaximal hbegun, ih]
    rfl

theorem skip {c : Char} (hc : c.isDigit = false) (h : Runs cs runs) : Runs (c :: cs) runs := by
  cases h with
  | none hgap => exact none (List.forall_mem_cons.2 ⟨hc, hgap⟩)
  | next hgap hne hrun hmaximal hrest =>
    exact next (List.forall_mem_cons.2 ⟨hc, hgap⟩) hne hrun hmaximal hrest

/-- The runs that are read are maximal, also where the first is under way. -/
theorem of_digitRunsFrom {begun : List Char} (hbegun : ∀ c ∈ begun, c.isDigit = true)
    (cs : List Char) : Runs (begun.reverse ++ cs) (digitRunsFrom begun cs) := by
  have hnone : ∀ c ∈ ([] : List Char), c.isDigit = false := by simp
  induction cs generalizing begun with
  | nil =>
    rw [digitRunsFrom]
    split
    · next hempty =>
      rw [List.isEmpty_iff.1 hempty]
      exact none hnone
    · next hne =>
      refine next hnone ?_ (fun c hc => hbegun c (List.mem_reverse.1 hc)) (by simp) (none hnone)
      simpa using hne
  | cons c rest ih =>
    rw [digitRunsFrom, isDigit_eq]
    split
    · next hc =>
      have hruns := ih (List.forall_mem_cons.2 ⟨hc, hbegun⟩)
      rwa [List.reverse_cons, List.append_assoc] at hruns
    · next hc =>
      have hc' : c.isDigit = false := Bool.not_eq_true _ ▸ hc
      have hrest : Runs rest (digitRunsFrom [] rest) := @ih [] (by simp)
      split
      · next hempty =>
        rw [List.isEmpty_iff.1 hempty]
        exact hrest.skip hc'
      · next hne =>
        refine next hnone ?_ (fun c hc => hbegun c (List.mem_reverse.1 hc)) ?_ (hrest.skip hc')
        · simpa using hne
        · simpa using hc'

theorem digits_of_mem (h : Runs cs runs) :
    ∀ run ∈ runs, run ≠ [] ∧ ∀ c ∈ run, c.isDigit = true := by
  induction h with
  | none => simp
  | next _ hne hrun _ _ ih => exact List.forall_mem_cons.2 ⟨⟨hne, hrun⟩, ih⟩

end Runs

theorem runs_iff {text : String} {runs : List (List Char)} :
    Runs text.toList runs ↔ runs = digitRuns text := by
  constructor
  · intro h
    exact h.eq_digitRunsFrom.symm
  · rintro rfl
    exact @Runs.of_digitRunsFrom [] (by simp) text.toList

/-! ## Words for numbers -/

/-- The word that stands for a number; one that does not fit means the end of a line. -/
def saturated (n : Nat) : Int :=
  if (n : Int) ≤ int64Max then n else lineEnd

/-- What digits are read as, if the number fits a word. -/
theorem readDigits?_of_digits {run : List Char} (hne : run ≠ [])
    (hrun : ∀ c ∈ run, c.isDigit = true) :
    readDigits? false run
      = if (decimal run : Int) ≤ int64Max then some (decimal run : Int) else none := by
  have hdigits : (run.isEmpty || !run.all isDigit) = false := by
    rw [List.isEmpty_eq_false_iff.2 hne, List.all_eq_true.2]
    · rfl
    · intro c hc
      rw [isDigit_eq, hrun c hc]
  have hleast : int64Min ≤ (decimal run : Int) :=
    Int.le_trans (by decide) (Int.natCast_nonneg _)
  rw [readDigits?, if_neg (by rw [hdigits]; decide)]
  simp [digitsValue_eq_decimal, hleast]

theorem runValue_eq_saturated {run : List Char} (hne : run ≠ [])
    (hrun : ∀ c ∈ run, c.isDigit = true) : runValue run = saturated (decimal run) := by
  rw [runValue, readDigits?_of_digits hne hrun, saturated]
  split <;> rfl

/-! ## The range that numbers mean -/

/-- The range that numbers write: no number the first character, one number a line, two or
three a span of lines, four or more the four ends. -/
def writtenRange : List Nat → Range
  | [] => ⟨1, 1, 1, 1⟩
  | [line] => ⟨line, 1, line, lineEnd⟩
  | [first, last] => ⟨first, 1, last, lineEnd⟩
  | [first, last, _] => ⟨first, 1, last, lineEnd⟩
  | startLine :: startChar :: endLine :: endChar :: _ => ⟨startLine, startChar, endLine, endChar⟩

namespace Endpoint

/-- Numbers for the end count from zero. -/
def countsFromZero (indexing : Indexing) : Endpoint → Bool
  | startLine => indexing.whole || indexing.line
  | startChar => indexing.whole || indexing.column
  | endLine => indexing.whole || indexing.line
  | endChar => indexing.whole || indexing.column

/-- The position that a number means at the end. -/
def position (indexing : Indexing) (e : Endpoint) (n : Nat) : Nat :=
  if e.countsFromZero indexing then min n lineEnd
  else if lineEnd ≤ n then lineEnd
  else n - 1

theorem countsFromOne_eq (indexing : Indexing) (e : Endpoint) :
    e.countsFromOne indexing = !e.countsFromZero indexing := by
  cases e <;> simp [countsFromOne, countsFromZero, Indexing.lowersLines, Indexing.lowersColumns]

/-- What a number leaves at the end is the position that it means. -/
theorem settle_natCast (indexing : Indexing) (e : Endpoint) (n : Nat) :
    e.settle indexing n = e.position indexing n := by
  have hleast : (n : Int) ≠ int64Min := by
    have := Int.natCast_nonneg n
    rw [int64Min]
    omega
  rw [settle, position, countsFromOne_eq]
  cases e.countsFromZero indexing with
  | true => simp [clampPosition]
  | false =>
    simp only [Bool.not_false, if_true, Bool.false_eq_true, if_false, oneDown, hleast]
    by_cases hend : (n : Int) = lineEnd
    · rw [if_pos hend, if_pos (by omega), clampPosition, hend]
      rfl
    · rw [if_neg hend, clampPosition]
      split <;> omega

theorem position_of_le (indexing : Indexing) (e : Endpoint) {n : Nat} (h : lineEnd ≤ n) :
    e.position indexing n = lineEnd := by
  rw [position, if_pos h, Nat.min_eq_right h, ite_self]

/-- That a number does not fit a word cannot be seen where it leaves its end. -/
theorem settle_saturated (indexing : Indexing) (e : Endpoint) (n : Nat) :
    e.settle indexing (saturated n) = e.position indexing n := by
  rw [saturated]
  split
  · exact settle_natCast indexing e n
  · next hlarge =>
    have hend : lineEnd ≤ n := by
      rw [int64Max] at hlarge
      rw [lineEnd]
      omega
    rw [settle_natCast, position_of_le _ _ hend, position_of_le _ _ (Nat.le_refl _)]

end Endpoint

/-- The range that numbers mean, counted from zero. -/
def meantRange (indexing : Indexing) (numbers : List Nat) : Range :=
  let written := writtenRange numbers
  { startLine := Endpoint.startLine.position indexing written.startLine
    startChar := Endpoint.startChar.position indexing written.startChar
    endLine := Endpoint.endLine.position indexing written.endLine
    endChar := Endpoint.endChar.position indexing written.endChar }

/-- The numbers of a combined location, read as words. -/
theorem combinedRange_get {text : String} {runs : List (List Char)}
    (h : Runs text.toList runs) (e : Endpoint) :
    (combinedRange text).get e = saturated (e.ofRange (writtenRange (runs.map decimal))) := by
  have hwords : (digitRuns text).map runValue = (runs.map decimal).map saturated := by
    rw [← runs_iff.1 h, List.map_map]
    refine List.map_congr_left fun run hrun => ?_
    obtain ⟨hne, hdigits⟩ := h.digits_of_mem run hrun
    exact runValue_eq_saturated hne hdigits
  have hone : saturated 1 = 1 := rfl
  have hend : saturated lineEnd = lineEnd := rfl
  rw [combinedRange, hwords]
  match runs.map decimal with
  | [] => cases e <;> rfl
  | [line] => cases e <;> rfl
  | [first, last] => cases e <;> rfl
  | [first, last, third] => cases e <;> rfl
  | startLine :: startChar :: endLine :: endChar :: rest => cases e <;> rfl

theorem WorkingRange.ext_get {r r' : WorkingRange} (h : ∀ e : Endpoint, r.get e = r'.get e) :
    r = r' := by
  obtain ⟨startLine, startChar, endLine, endChar⟩ := r
  obtain ⟨startLine', startChar', endLine', endChar'⟩ := r'
  rw [show startLine = startLine' from h .startLine, show startChar = startChar' from h .startChar,
    show endLine = endLine' from h .endLine, show endChar = endChar' from h .endChar]

/-- What the runs of a combined location leave at an end. -/
theorem get_resolveLocation_combined {group : Nat} {groups : Groups} {runs : List (List Char)}
    (h : Runs ((groups.get? group).getD "1,1,1,1").toList runs) (indexing : Indexing)
    (r : WorkingRange) (e : Endpoint) :
    (resolveLocation (.combined group) groups indexing r).get e
      = e.position indexing (e.ofRange (writtenRange (runs.map decimal))) := by
  generalize htext : (groups.get? group).getD "1,1,1,1" = text at h
  have hsettled : clampPosition (((combinedRange text).lowered indexing).get e)
      = e.settle indexing ((combinedRange text).get e) := by
    cases e <;> rfl
  rw [resolveLocation, htext, WorkingRange.get_clamp, hsettled, combinedRange_get h,
    Endpoint.settle_saturated]

/-- **A combined location is read exactly.**

Whatever range a step finds, and whatever the text of its combined location is, the step
leaves the range that the numbers in the text mean: the text has one list of maximal runs of
digits, and what counts is the natural numbers that they write, however large those are.
Where the group took no part, four ones are read. -/
theorem combined_location_exact (group : Nat) (groups : Groups) (indexing : Indexing)
    (r : WorkingRange) :
    ∃ runs, (∀ runs', Runs ((groups.get? group).getD "1,1,1,1").toList runs' ↔ runs' = runs) ∧
      resolveLocation (.combined group) groups indexing r
        = .ofRange (meantRange indexing (runs.map decimal)) := by
  refine ⟨digitRuns ((groups.get? group).getD "1,1,1,1"), fun _ => runs_iff,
    WorkingRange.ext_get fun e => ?_⟩
  rw [get_resolveLocation_combined (runs_iff.2 rfl)]
  cases e <;> rfl

/-- Digits of other scripts and signs separate, zeros in front do not count, and a number
that fits no word is the end of all lines, as the greatest position is. -/
example :
    resolveLocation (.combined 0) ⟨[some "-٣(007:99999999999999999999/4294967296, 0) 5"]⟩ {} {}
      = { startLine := 6, startChar := lineEnd, endLine := lineEnd, endChar := 0 } := by
  decide +kernel

end LogProblems.Matcher
