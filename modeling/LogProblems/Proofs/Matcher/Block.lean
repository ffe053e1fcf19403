import Mathlib.Data.List.Infix
import LogProblems.Proofs.Matcher.Advance

/-!
# Blocks of lines

A matcher cuts its input into blocks.  Outside a block it looks for a line that the
first step matches.  Inside, it tries each line against the next step, or against the
last one again if that repeats, until a line fails, the last step has matched for
good, or the input ends.  The line that fails belongs to the block and is not tried
again.  Each block gives some reports, and each report tells of a beginning of the
block only.

Here the blocks are read off the input as a whole; the matcher finds them line by
line, with one state.

* `advance_of_hit` and `advance_of_failure`: the state after a beginning of a block
  determines what the next line does;
* `emissions_blank`: a run reports exactly its blocks;
* `emissions_eq_blocks`: so does every run of a compiled matcher, whatever functions
  its patterns are.
-/

set_option autoImplicit false

namespace LogProblems.Matcher

/-! ## Blocks -/

/-- A line that a step matched. -/
structure Hit where
  step : Step
  number : Nat
  groups : Groups

/-- Lines that matched steps one after the other, and the step that the line after
them failed, if there was such a line. -/
structure Block where
  hits : List Hit
  failed : Option Step

/-- How many lines the block takes up. -/
def Block.length (b : Block) : Nat :=
  b.hits.length + if b.failed.isSome then 1 else 0

namespace Compiled

/-- The step that line `k` of a block is tried against: step `k`, and past the last
step that one again if it repeats. -/
def stepAt (m : Compiled) (k : Nat) : Option Step :=
  if k < m.steps.length then m.steps[k]? else m.steps.getLast?.filter (·.loops)

/-- The last step continues a message. -/
def endsInContinuation (m : Compiled) : Bool :=
  m.steps.getLast?.any (·.isContinuation)

/-- The longest run of lines that match the steps from place `k` of a block on; the
first of the lines has the given number. -/
def hitsFrom (m : Compiled) : Nat → Nat → List String → List Hit
  | _, _, [] => []
  | k, number, line :: rest =>
    match m.stepAt k with
    | none => []
    | some step =>
      match step.pattern.find line with
      | none => []
      | some groups => ⟨step, number, groups⟩ :: m.hitsFrom (k + 1) (number + 1) rest

/-- The block of hits that were found at the beginning of so many lines. -/
def blockOf (m : Compiled) (hits : List Hit) (count : Nat) : Block :=
  { hits, failed := if hits.length < count then m.stepAt hits.length else none }

/-- The blocks of some lines, of which the first has the given number. -/
def blocks (m : Compiled) : Nat → List String → List Block
  | _, [] => []
  | number, line :: rest =>
    match m.hitsFrom 0 number (line :: rest) with
    | [] => m.blocks (number + 1) rest
    | first :: later =>
      m.blockOf (first :: later) (rest.length + 1)
        :: m.blocks (number + (m.blockOf (first :: later) (rest.length + 1)).length)
          ((line :: rest).drop (m.blockOf (first :: later) (rest.length + 1)).length)
termination_by _ lines => lines.length
decreasing_by
  · simp
  · simp only [Block.length, blockOf, List.length_drop, List.length_cons]
    omega

/-- The beginnings of a block that a report is made of, in order.  A block that stops
before its last step has matched is reported when the input ends, or when the step
that a line failed continues a message.  A last step that continues a message reports
the block as a whole, any other last step reports it at each of its lines. -/
def reports (m : Compiled) (b : Block) : List (List Hit) :=
  if b.hits.length < m.steps.length then
    match b.failed with
    | none => [b.hits]
    | some step => if step.isContinuation then [b.hits] else []
  else if m.endsInContinuation then [b.hits]
  else b.hits.inits.filter fun hits => m.steps.length ≤ hits.length

/-- The problem gathered from hits, with their number as the cursor. -/
def gathered (m : Compiled) (context : Context) (hits : List Hit) : State :=
  hits.foldl
    (fun s hit =>
      { s.gather m hit.step hit.groups hit.number context with cursor := s.cursor + 1 })
    .blank

/-- The report that hits make. -/
def report (m : Compiled) (context : Context) (hits : List Hit) : Emission :=
  (m.gathered context hits).emission m

end Compiled

/-- What a matcher reports from a state on: the lines from the given number on, and
then the end of the input. -/
def State.emissions (m : Compiled) (context : Context) :
    State → Nat → List String → Except MissingStep (List Emission)
  | s, _, [] => .ok (s.flush m).2.toList
  | s, number, line :: rest =>
    match s.advance m line number context with
    | .error fault => .error fault
    | .ok (s, completed) =>
      (s.emissions m context (number + 1) rest).map (completed.toList ++ ·)

/-! ## The state after a beginning of a block -/

namespace Compiled

variable {m : Compiled} {context : Context}

theorem stepAt_of_lt {k : Nat} (h : k < m.steps.length) : m.stepAt k = m.steps[k]? := by
  simp only [stepAt, h, if_true]

theorem stepAt_of_le {k : Nat} (h : m.steps.length ≤ k) :
    m.stepAt k = m.steps.getLast?.filter (·.loops) := by
  simp only [stepAt, Nat.not_lt.2 h, if_false]

/-- The cursor of a matcher stays at the last step once it is there. -/
theorem getElem?_of_stepAt {k : Nat} {step : Step} (h : m.stepAt k = some step) :
    m.steps[min k (m.steps.length - 1)]? = some step := by
  by_cases hlt : k < m.steps.length
  · rw [stepAt_of_lt hlt] at h
    rwa [Nat.min_eq_left (by omega)]
  · rw [stepAt_of_le (Nat.not_lt.1 hlt)] at h
    have hlast : m.steps.getLast? = some step := (Option.filter_eq_some_iff.1 h).1
    rwa [Nat.min_eq_right (by omega), ← List.getLast?_eq_getElem?]

theorem loops_of_stepAt {k : Nat} {step : Step} (h : m.stepAt k = some step)
    (hle : m.steps.length ≤ k) : step.loops = true := by
  rw [stepAt_of_le hle] at h
  exact (Option.filter_eq_some_iff.1 h).2

theorem gathered_concat (hits : List Hit) (hit : Hit) :
    m.gathered context (hits ++ [hit])
      = { (m.gathered context hits).gather m hit.step hit.groups hit.number context with
          cursor := (m.gathered context hits).cursor + 1 } := by
  simp only [gathered, List.foldl_append, List.foldl_cons, List.foldl_nil]

@[simp] theorem gathered_concat_isOpen (hits : List Hit) (hit : Hit) :
    (m.gathered context (hits ++ [hit])).isOpen = true := by
  rw [gathered_concat]
  rfl

@[simp] theorem gathered_cursor (hits : List Hit) :
    (m.gathered context hits).cursor = hits.length := by
  induction hits using List.reverseRecOn with
  | nil => rfl
  | append_singleton hits hit ih => simp [gathered_concat, ih]

/-- The state of a matcher that has seen these hits of a block and nothing of it
after them.  It is blank when the last of them closed the block. -/
def stateAfter (m : Compiled) (context : Context) (hits : List Hit) : State :=
  match m.stepAt hits.length with
  | none => .blank
  | some _ =>
    { m.gathered context hits with
      cursor := min hits.length (m.steps.length - 1)
      isOpen := decide (0 < hits.length)
        && (decide (hits.length < m.steps.length) || m.endsInContinuation) }

theorem stateAfter_nil : m.stateAfter context [] = .blank := by
  unfold stateAfter
  split
  · rfl
  · simp [gathered, State.blank]

theorem stateAfter_of_stepAt {hits : List Hit} {step : Step}
    (hstep : m.stepAt hits.length = some step) :
    m.stateAfter context hits
      = { m.gathered context hits with
          cursor := min hits.length (m.steps.length - 1)
          isOpen := decide (0 < hits.length)
            && (decide (hits.length < m.steps.length) || m.endsInContinuation) } := by
  simp only [stateAfter, hstep]

/-- The step past the last one is the last one, or none if that does not repeat. -/
theorem getLast?_of_stepAt {k : Nat} {step : Step} (hstep : m.stepAt k = some step)
    (hle : m.steps.length ≤ k + 1) : m.steps.getLast? = some step := by
  have h := getElem?_of_stepAt hstep
  rwa [Nat.min_eq_right (by omega), ← List.getLast?_eq_getElem?] at h

theorem endsInContinuation_of_getLast? {step : Step} (h : m.steps.getLast? = some step) :
    m.endsInContinuation = step.isContinuation := by
  simp only [endsInContinuation, h, Option.any_some]

/-- No step is tried past the last one if that does not repeat, and then it does not
continue a message either. -/
theorem stepAt_eq_none (hm : m.Lawful) {k : Nat} (h : m.stepAt k = none) :
    m.steps.length ≤ k ∧ m.endsInContinuation = false := by
  have hle : m.steps.length ≤ k := by
    by_contra hlt
    rw [stepAt_of_lt (Nat.not_le.1 hlt), List.getElem?_eq_getElem (Nat.not_le.1 hlt)] at h
    cases h
  refine ⟨hle, ?_⟩
  rw [stepAt_of_le hle] at h
  cases hlast : m.steps.getLast? with
  | none => simp [endsInContinuation, hlast]
  | some step =>
    have hloops : step.loops = false := by simpa [hlast] using h
    rw [endsInContinuation_of_getLast? hlast]
    exact hm.isContinuation_eq_false (List.mem_of_getLast? hlast) hloops

/-- Gathering from the state after some hits is gathering one hit more. -/
theorem gather_stateAfter (hm : m.Lawful) (context : Context) {hits : List Hit} {hit : Hit}
    (hstep : m.stepAt hits.length = some hit.step) :
    (m.stateAfter context hits).gather m hit.step hit.groups hit.number context
      = { m.gathered context (hits ++ [hit]) with
          cursor := min hits.length (m.steps.length - 1) } := by
  have hmem : hit.step ∈ m.steps := List.mem_of_getElem? (getElem?_of_stepAt hstep)
  have hmore : m.steps.length ≤ hits.length → 2 ≤ m.steps.length :=
    fun hle => hm.two_le_of_loops hit.step hmem (loops_of_stepAt hstep hle)
  -- The cursor and the number of hits agree on whether the range is anchored here.
  have hfirst : min hits.length (m.steps.length - 1) = 0
      ↔ (m.gathered context hits).cursor = 0 := by
    rw [gathered_cursor]
    omega
  rw [stateAfter_of_stepAt hstep, State.gather_setCursor _ hfirst, gathered_concat]

/-- What the next line of a block does when it matches. -/
theorem advance_of_hit (hm : m.Lawful) (context : Context) {hits : List Hit} (hit : Hit)
    {line : String}
    (hstep : m.stepAt hits.length = some hit.step)
    (hfind : hit.step.pattern.find line = some hit.groups) :
    (m.stateAfter context hits).advance m line hit.number context
      = .ok (m.stateAfter context (hits ++ [hit]),
          if m.steps.length ≤ hits.length + 1 ∧ m.endsInContinuation = false then
            some (m.report context (hits ++ [hit]))
          else none) := by
  have hpos := hm.steps_pos
  have hmem : hit.step ∈ m.steps := List.mem_of_getElem? (getElem?_of_stepAt hstep)
  have hlen : (hits ++ [hit]).length = hits.length + 1 := List.length_append
  have hcursor : (m.stateAfter context hits).cursor = min hits.length (m.steps.length - 1) := by
    rw [stateAfter_of_stepAt hstep]
  have hgather := gather_stateAfter hm context hstep
  rw [State.advance_of_match (by rw [hcursor]; exact getElem?_of_stepAt hstep) hfind]
  congr 1
  by_cases honward : hits.length + 1 < m.steps.length
  · have hnext : m.stepAt (hits ++ [hit]).length = some m.steps[hits.length + 1] := by
      rw [hlen, stepAt_of_lt honward, List.getElem?_eq_getElem honward]
    have hopen : (m.gathered context (hits ++ [hit])).isOpen
        = (decide (0 < hits.length + 1)
          && (decide (hits.length + 1 < m.steps.length) || m.endsInContinuation)) := by
      simp [honward]
    rw [State.step_onward (by omega), hgather, stateAfter_of_stepAt hnext, hcursor, hlen,
      if_neg (by omega), Nat.min_eq_left (by omega), Nat.min_eq_left (by omega), ← hopen]
  · have hlast : m.steps.getLast? = some hit.step := getLast?_of_stepAt hstep (by omega)
    rw [endsInContinuation_of_getLast? hlast]
    cases hloops : hit.step.loops with
    | false =>
      have hcontinues := hm.isContinuation_eq_false hmem hloops
      have hnext : m.stepAt (hits ++ [hit]).length = none := by
        rw [hlen, stepAt_of_le (by omega), hlast]
        simp [hloops]
      rw [State.step_complete (by omega) hcontinues hloops, hgather, if_pos ⟨by omega, hcontinues⟩]
      simp only [stateAfter, hnext, report]
      rfl
    | true =>
      have hnext : m.stepAt (hits ++ [hit]).length = some hit.step := by
        rw [hlen, stepAt_of_le (by omega), hlast]
        simp [hloops]
      have hstay : min hits.length (m.steps.length - 1)
          = min (hits.length + 1) (m.steps.length - 1) := by omega
      have hopen : (decide (0 < hits.length + 1)
          && (decide (hits.length + 1 < m.steps.length) || hit.step.isContinuation))
          = hit.step.isContinuation := by
        simp [honward]
      rw [State.step_repeat (by omega) (hm.two_le_of_loops _ hmem hloops) hloops, hgather,
        stateAfter_of_stepAt hnext, hlen, endsInContinuation_of_getLast? hlast, hopen, hstay]
      cases hit.step.isContinuation <;> simp [Nat.not_lt.1 honward, report, State.emission]

/-- What the next line of a block does when it fails. -/
theorem advance_of_failure {hits : List Hit} {step : Step} {line : String} {number : Nat}
    (hne : hits ≠ []) (hstep : m.stepAt hits.length = some step)
    (hfind : step.pattern.find line = none) :
    (m.stateAfter context hits).advance m line number context
      = .ok (.blank, if step.isContinuation then some (m.report context hits) else none) := by
  have hpos : 0 < hits.length := List.length_pos_iff.2 hne
  have hcursor : (m.stateAfter context hits).cursor = min hits.length (m.steps.length - 1) := by
    rw [stateAfter_of_stepAt hstep]
  have hopen : (step.isContinuation && (m.stateAfter context hits).isOpen)
      = step.isContinuation := by
    rw [stateAfter_of_stepAt hstep]
    by_cases hlt : hits.length < m.steps.length
    · simp [hpos, hlt]
    · have hlast : m.steps.getLast? = some step := getLast?_of_stepAt hstep (by omega)
      rw [endsInContinuation_of_getLast? hlast]
      cases step.isContinuation <;> simp [hpos]
  rw [State.advance_of_unmatched (by rw [hcursor]; exact getElem?_of_stepAt hstep) hfind]
  rw [State.unmatched, hopen, stateAfter_of_stepAt hstep]
  rfl

/-- What the end of the input does to a block. -/
theorem flush_stateAfter (hm : m.Lawful) {hits : List Hit} (hne : hits ≠ []) :
    ((m.stateAfter context hits).flush m).2
      = if hits.length < m.steps.length ∨ m.endsInContinuation = true then
          some (m.report context hits)
        else none := by
  have hpos : 0 < hits.length := List.length_pos_iff.2 hne
  cases hstep : m.stepAt hits.length with
  | some step =>
    rw [stateAfter_of_stepAt hstep]
    simp [State.flush, State.emission, hpos, report]
  | none =>
    obtain ⟨hle, hends⟩ := stepAt_eq_none hm hstep
    simp [stateAfter, hstep, State.flush, Nat.not_lt.2 hle, hends]

/-! ## Reports line by line -/

/-- The reports made while the lines of the hits were read. -/
def completed (m : Compiled) (hits : List Hit) : List (List Hit) :=
  if m.endsInContinuation then []
  else hits.inits.filter fun hits => m.steps.length ≤ hits.length

theorem completed_of_lt {hits : List Hit} (h : hits.length < m.steps.length) :
    m.completed hits = [] := by
  unfold completed
  split
  · rfl
  · rw [List.filter_eq_nil_iff]
    intro start hstart
    have hle : start.length ≤ hits.length := ((List.mem_inits _ _).1 hstart).length_le
    simp only [decide_eq_true_eq]
    omega

theorem completed_concat (hits : List Hit) (hit : Hit) :
    m.completed (hits ++ [hit])
      = m.completed hits ++
        if m.steps.length ≤ hits.length + 1 ∧ m.endsInContinuation = false then
          [hits ++ [hit]]
        else [] := by
  cases hends : m.endsInContinuation with
  | true => simp [completed, hends]
  | false => simp [completed, hends, List.inits_append, List.filter_singleton]

theorem map_report_completed_concat (context : Context) (hits : List Hit) (hit : Hit) :
    (m.completed (hits ++ [hit])).map (m.report context)
      = (m.completed hits).map (m.report context)
        ++ (if m.steps.length ≤ hits.length + 1 ∧ m.endsInContinuation = false then
            some (m.report context (hits ++ [hit]))
          else none).toList := by
  rw [completed_concat]
  split <;> simp

theorem reports_of_failed {hits : List Hit} {step : Step}
    (hstep : m.stepAt hits.length = some step) :
    m.reports ⟨hits, some step⟩
      = m.completed hits ++ if step.isContinuation then [hits] else [] := by
  by_cases hlt : hits.length < m.steps.length
  · simp [reports, hlt, completed_of_lt hlt]
  · have hlast : m.steps.getLast? = some step := getLast?_of_stepAt hstep (by omega)
    have hends := endsInContinuation_of_getLast? hlast
    cases hcontinues : step.isContinuation <;>
      simp [reports, completed, hlt, hends, hcontinues]

theorem reports_of_unfailed (hits : List Hit) :
    m.reports ⟨hits, none⟩
      = m.completed hits ++
        if hits.length < m.steps.length ∨ m.endsInContinuation = true then [hits] else [] := by
  by_cases hlt : hits.length < m.steps.length
  · simp [reports, hlt, completed_of_lt hlt]
  · cases hends : m.endsInContinuation <;> simp [reports, completed, hlt, hends]

/-! ## Runs -/

variable {k number : Nat} {step : Step} {line : String} {rest : List String}

theorem exists_stepAt_zero (hm : m.Lawful) : ∃ step, m.stepAt 0 = some step :=
  ⟨_, (stepAt_of_lt hm.steps_pos).trans (List.getElem?_eq_getElem hm.steps_pos)⟩

theorem hitsFrom_of_stepAt_none (hstep : m.stepAt k = none) (lines : List String) :
    m.hitsFrom k number lines = [] := by
  cases lines with
  | nil => rfl
  | cons line rest => simp only [hitsFrom, hstep]

theorem hitsFrom_of_unmatched (hstep : m.stepAt k = some step)
    (hfind : step.pattern.find line = none) : m.hitsFrom k number (line :: rest) = [] := by
  simp only [hitsFrom, hstep, hfind]

theorem hitsFrom_of_match {groups : Groups} (hstep : m.stepAt k = some step)
    (hfind : step.pattern.find line = some groups) :
    m.hitsFrom k number (line :: rest)
      = ⟨step, number, groups⟩ :: m.hitsFrom (k + 1) (number + 1) rest := by
  simp only [hitsFrom, hstep, hfind]

/-- The block that begins with these hits and goes on in these lines. -/
def blockFrom (m : Compiled) (hits : List Hit) (number : Nat) (lines : List String) : Block :=
  m.blockOf (hits ++ m.hitsFrom hits.length number lines) (hits.length + lines.length)

theorem blockFrom_nil (hits : List Hit) : m.blockFrom hits number [] = ⟨hits, none⟩ := by
  simp [blockFrom, hitsFrom, blockOf]

theorem blockFrom_of_stepAt_none {hits : List Hit} (hstep : m.stepAt hits.length = none) :
    m.blockFrom hits number (line :: rest) = ⟨hits, none⟩ := by
  simp [blockFrom, hitsFrom_of_stepAt_none hstep, blockOf, hstep]

theorem blockFrom_of_unmatched {hits : List Hit} (hstep : m.stepAt hits.length = some step)
    (hfind : step.pattern.find line = none) :
    m.blockFrom hits number (line :: rest) = ⟨hits, some step⟩ := by
  simp [blockFrom, hitsFrom_of_unmatched hstep hfind, blockOf, hstep]

theorem blockFrom_of_match {hits : List Hit} {groups : Groups}
    (hstep : m.stepAt hits.length = some step) (hfind : step.pattern.find line = some groups) :
    m.blockFrom hits number (line :: rest)
      = m.blockFrom (hits ++ [⟨step, number, groups⟩]) (number + 1) rest := by
  rw [blockFrom, blockFrom, hitsFrom_of_match hstep hfind, List.length_append,
    List.length_singleton, List.append_cons, List.length_cons, Nat.add_assoc hits.length,
    Nat.add_comm 1 rest.length]

theorem length_le_blockFrom (hits : List Hit) (number : Nat) (lines : List String) :
    hits.length ≤ (m.blockFrom hits number lines).length := by
  simp only [Block.length, blockFrom, blockOf, List.length_append]
  omega

theorem map_append_map (first second : List Emission)
    (later : Except MissingStep (List Emission)) :
    (later.map (second ++ ·)).map (first ++ ·) = later.map (first ++ second ++ ·) := by
  cases later with
  | error fault => rfl
  | ok emissions => simp [Except.map]

theorem emissions_cons {s after : State} {result : Option Emission}
    (h : s.advance m line number context = .ok (after, result)) :
    s.emissions m context number (line :: rest)
      = (after.emissions m context (number + 1) rest).map (result.toList ++ ·) := by
  simp only [State.emissions, h]

/-- From a state inside a block, a matcher reports the rest of the block, and goes on
blank at the line after it. -/
theorem emissions_stateAfter (hm : m.Lawful) (context : Context) {hits : List Hit} (hne : hits ≠ [])
    (number : Nat) (lines : List String) :
    ((m.stateAfter context hits).emissions m context number lines).map
        ((m.completed hits).map (m.report context) ++ ·)
      = (State.blank.emissions m context
          (number + ((m.blockFrom hits number lines).length - hits.length))
          (lines.drop ((m.blockFrom hits number lines).length - hits.length))).map
        ((m.reports (m.blockFrom hits number lines)).map (m.report context) ++ ·) := by
  induction lines generalizing hits number with
  | nil =>
    rw [blockFrom_nil, reports_of_unfailed, List.drop_nil]
    simp only [State.emissions, flush_stateAfter hm hne]
    split <;> simp [Except.map, State.flush]
  | cons line rest ih =>
    cases hstep : m.stepAt hits.length with
    | none =>
      obtain ⟨hle, hends⟩ := stepAt_eq_none hm hstep
      have hblank : m.stateAfter context hits = .blank := by
        simp only [stateAfter, hstep]
      rw [blockFrom_of_stepAt_none hstep, reports_of_unfailed, hblank]
      simp [Block.length, Nat.not_lt.2 hle, hends]
    | some step =>
      cases hfind : step.pattern.find line with
      | none =>
        have hlen : (⟨hits, some step⟩ : Block).length - hits.length = 1 := by
          simp [Block.length]
        rw [blockFrom_of_unmatched hstep hfind, hlen, reports_of_failed hstep,
          emissions_cons (advance_of_failure hne hstep hfind), map_append_map]
        cases step.isContinuation <;> simp
      | some groups =>
        let hit : Hit := ⟨step, number, groups⟩
        have hmore : hits ++ [hit] ≠ [] := by simp
        have hadvance := advance_of_hit hm context hit hstep hfind
        have hlonger := length_le_blockFrom (m := m) (hits ++ [hit]) (number + 1) rest
        rw [blockFrom_of_match hstep hfind, emissions_cons hadvance, map_append_map,
          ← map_report_completed_concat, ih hmore (number + 1)]
        generalize m.blockFrom (hits ++ [hit]) (number + 1) rest = b at hlonger ⊢
        rw [List.length_append, List.length_singleton] at hlonger ⊢
        have hshift : b.length - hits.length = b.length - (hits.length + 1) + 1 := by omega
        rw [hshift, List.drop_succ_cons, Nat.add_assoc, Nat.add_comm 1]

theorem emissions_of_opening (hm : m.Lawful) (context : Context) {first : Hit} {later : List Hit}
    (hhits : m.hitsFrom 0 number (line :: rest) = first :: later) :
    State.blank.emissions m context number (line :: rest)
      = ((m.stateAfter context [first]).emissions m context (number + 1) rest).map
          ((m.completed [first]).map (m.report context) ++ ·)
      ∧ later = m.hitsFrom 1 (number + 1) rest := by
  obtain ⟨step, hstep⟩ := exists_stepAt_zero hm
  cases hfind : step.pattern.find line with
  | none =>
    rw [hitsFrom_of_unmatched hstep hfind] at hhits
    cases hhits
  | some groups =>
    rw [hitsFrom_of_match hstep hfind] at hhits
    cases hhits
    have hnone : m.completed [] = [] := completed_of_lt hm.steps_pos
    have hadvance := @advance_of_hit m hm context [] ⟨step, number, groups⟩ line hstep hfind
    rw [stateAfter_nil] at hadvance
    refine ⟨?_, rfl⟩
    rw [emissions_cons hadvance, ← List.nil_append [_], completed_concat, hnone]
    split <;> rfl

theorem blocks_of_hits {lines : List String} {first : Hit} {later : List Hit}
    (hhits : m.hitsFrom 0 number lines = first :: later) :
    m.blocks number lines
      = m.blockOf (first :: later) lines.length
        :: m.blocks (number + (m.blockOf (first :: later) lines.length).length)
          (lines.drop (m.blockOf (first :: later) lines.length).length) := by
  cases lines with
  | nil => cases hhits
  | cons line rest =>
    rw [blocks, hhits]
    rfl

/-- A blank matcher reports exactly the blocks of its input, in order. -/
theorem emissions_blank (hm : m.Lawful) (number : Nat) (lines : List String) :
    State.blank.emissions m context number lines
      = .ok ((m.blocks number lines).flatMap fun b => (m.reports b).map (m.report context)) := by
  induction number, lines using blocks.induct m with
  | case1 number => simp [State.emissions, State.flush, blocks]
  | case2 number line rest hhits ih =>
    obtain ⟨step, hstep⟩ := exists_stepAt_zero hm
    cases hfind : step.pattern.find line with
    | none =>
      have hadvance : State.blank.advance m line number context = .ok (.blank, none) := by
        rw [State.advance_of_unmatched (s := .blank) (getElem?_of_stepAt hstep) hfind]
        simp [State.unmatched]
      rw [emissions_cons hadvance, ih, blocks, hhits]
      rfl
    | some groups =>
      rw [hitsFrom_of_match hstep hfind] at hhits
      cases hhits
  | case3 number line rest first later hhits ih =>
    obtain ⟨hopening, hlater⟩ := emissions_of_opening hm context hhits
    have hblock : m.blockOf (first :: later) (rest.length + 1)
        = m.blockFrom [first] (number + 1) rest := by
      rw [hlater, blockFrom, List.length_singleton, Nat.add_comm 1 rest.length]
      rfl
    have hne : [first] ≠ [] := by simp
    have hpos : [first].length ≤ (m.blockFrom [first] (number + 1) rest).length :=
      length_le_blockFrom [first] (number + 1) rest
    rw [hopening, emissions_stateAfter hm context hne (number + 1) rest, blocks_of_hits hhits,
      @List.length_cons _ line rest, hblock]
    rw [hblock] at ih
    generalize m.blockFrom [first] (number + 1) rest = b at hpos ih ⊢
    rw [List.length_singleton] at hpos ⊢
    have hnumber : number + 1 + (b.length - 1) = number + b.length := by omega
    have hdrop : rest.drop (b.length - 1) = (line :: rest).drop b.length := by
      rw [← List.drop_succ_cons, Nat.sub_add_cancel hpos]
    rw [hnumber, hdrop, ih]
    rfl

/-! ## Blocks cut short -/

/-- Lines that match the steps from place `k` on are hits, up to a line that fails. -/
theorem hitsFrom_of_failure {lines : List String} {failing : String} :
    ∀ {k number : Nat}, (∀ (i : Nat) (line : String), lines[i]? = some line →
        ∃ step, m.stepAt (k + i) = some step ∧ (step.pattern.find line).isSome = true) →
      (∃ step, m.stepAt (k + lines.length) = some step ∧ step.pattern.find failing = none) →
      (m.hitsFrom k number (lines ++ [failing])).length = lines.length := by
  induction lines with
  | nil =>
    rintro k number _ ⟨step, hstep, hfind⟩
    rw [List.length_nil, Nat.add_zero] at hstep
    rw [List.nil_append, hitsFrom_of_unmatched hstep hfind]
    rfl
  | cons line rest ih =>
    intro k number hlines hfailing
    obtain ⟨step, hstep, hsome⟩ := hlines 0 line rfl
    rw [Nat.add_zero] at hstep
    obtain ⟨groups, hfind⟩ := Option.isSome_iff_exists.1 hsome
    rw [List.cons_append, hitsFrom_of_match hstep hfind, List.length_cons, List.length_cons]
    refine congrArg (· + 1) (ih (fun i line hi => ?_) ?_)
    · rw [Nat.add_assoc, Nat.add_comm 1]
      exact hlines (i + 1) line hi
    · rw [Nat.add_assoc, Nat.add_comm 1]
      exact hfailing

/-- A block that a line cuts short before the last step is reported once if the step
that the line fails continues a message, and not at all if it does not. -/
theorem emissions_of_failure (hm : m.Lawful) (context : Context) {lines : List String}
    {failing : String} (hpos : 0 < lines.length) (hlt : lines.length < m.steps.length)
    (hlines : ∀ (i : Nat) (line : String), lines[i]? = some line →
      ∃ step : Step, m.steps[i]? = some step ∧ (step.pattern.find line).isSome = true)
    (hstep : m.steps[lines.length]? = some step) (hfailing : step.pattern.find failing = none) :
    ∃ es, State.blank.emissions m context 0 (lines ++ [failing]) = .ok es ∧
      es.length = if step.isContinuation then 1 else 0 := by
  have hfailed : m.stepAt lines.length = some step := by rw [stepAt_of_lt hlt, hstep]
  have hlen : (m.hitsFrom 0 0 (lines ++ [failing])).length = lines.length := by
    refine hitsFrom_of_failure (fun i line hi => ?_) ⟨step, by rwa [Nat.zero_add], hfailing⟩
    have hi' : i < lines.length := (List.getElem?_eq_some_iff.1 hi).1
    rw [Nat.zero_add, stepAt_of_lt (by omega)]
    exact hlines i line hi
  refine ⟨_, emissions_blank hm 0 _, ?_⟩
  cases hhits : m.hitsFrom 0 0 (lines ++ [failing]) with
  | nil =>
    rw [hhits, List.length_nil] at hlen
    omega
  | cons hit hits =>
    rw [hhits] at hlen
    have hblock : m.blockOf (hit :: hits) (lines ++ [failing]).length
        = ⟨hit :: hits, some step⟩ := by
      simp only [blockOf, hlen, hfailed]
      simp
    have hall : (lines ++ [failing]).drop (⟨hit :: hits, some step⟩ : Block).length = [] := by
      rw [List.drop_eq_nil_iff, Block.length, hlen]
      simp
    rw [blocks_of_hits hhits, hblock, hall, blocks, List.flatMap_singleton, List.length_map,
      reports_of_failed (by rw [hlen]; exact hfailed), completed_of_lt (by rw [hlen]; exact hlt)]
    split <;> rfl

/-! ## Compiled matchers -/

/-- Two matchers that differ in the patterns of their steps at most. -/
structure SameButPatterns (m m' : Compiled) : Prop where
  title : m'.title = m.title
  source : m'.source = m.source
  steps : List.Forall₂ (fun s s' => s'.role = s.role ∧ s'.loops = s.loops) m.steps m'.steps
  severity : m'.severity = m.severity
  pathMode : m'.pathMode = m.pathMode
  indexing : m'.indexing = m.indexing

theorem SameButPatterns.refl (m : Compiled) : m.SameButPatterns m :=
  ⟨rfl, rfl, List.forall₂_same.2 fun _ _ => ⟨rfl, rfl⟩, rfl, rfl, rfl⟩

/-- What compiling promises does not depend on the patterns. -/
theorem SameButPatterns.lawful {m' : Compiled} (h : m.SameButPatterns m') (hm : m.Lawful) :
    m'.Lawful := by
  have hlen : m.steps.length = m'.steps.length := h.steps.length_eq
  have horigin : ∀ s' ∈ m'.steps, ∃ s ∈ m.steps, s'.role = s.role ∧ s'.loops = s.loops := by
    intro s' hs'
    obtain ⟨k, hk⟩ := List.getElem?_of_mem hs'
    obtain ⟨s, hs, hsame⟩ := exists_getElem?_of_forall₂ h.steps hk
    exact ⟨s, List.mem_of_getElem? hs, hsame⟩
  refine ⟨hlen ▸ hm.steps_pos, ?_, ?_⟩
  · intro s' hs' hcontinues
    obtain ⟨s, hs, hrole, hloops⟩ := horigin s' hs'
    rw [Step.isContinuation, hrole] at hcontinues
    rw [hloops]
    exact hm.loops_of_isContinuation s hs hcontinues
  · intro s' hs' hrepeats
    obtain ⟨s, hs, _, hloops⟩ := horigin s' hs'
    rw [← hlen]
    exact hm.two_le_of_loops s hs (hloops ▸ hrepeats)

end Compiled

/-- A compiled matcher, run over any lines from the default state and then flushed,
reports exactly the blocks of its input, in order, whatever functions its patterns
are: it never fails, skips what no block takes up, and each report is made of the
beginning of its block that the rules of `Compiled.reports` name. -/
theorem emissions_eq_blocks {d : Definition} {place : Nat} {compiled m : Compiled}
    (h : compile d place = .ok compiled) (hm : compiled.SameButPatterns m) (context : Context)
    (lines : List String) :
    State.blank.emissions m context 0 lines
      = .ok ((m.blocks 0 lines).flatMap fun b => (m.reports b).map (m.report context)) :=
  Compiled.emissions_blank (hm.lawful (compile_lawful h)) 0 lines

/-- Two headings with repeated items: the first block reports each item, the second
reports nothing, since its second line is a heading again. -/
theorem emissions_eq_blocks_list :
    ∃ m, compile { pattern := some (.many
        [{ regexp := some "^Errors:$" },
          { regexp := some "^  (.*): (.*)$", file := some 1, message := some 2,
            loop := some true }]) } 0 = .ok m ∧
      State.blank.emissions m {} 0 ["Errors:", "  a: x", "  b: y", "", "Errors:", "Errors:"]
        = .ok ((m.blocks 0 ["Errors:", "  a: x", "  b: y", "", "Errors:", "Errors:"]).flatMap
          fun b => (m.reports b).map (m.report {})) ∧
      (m.blocks 0 ["Errors:", "  a: x", "  b: y", "", "Errors:", "Errors:"]).map
        (fun b => (b.hits.length, (m.reports b).length)) = [(3, 2), (1, 0)] := by
  have hblocks : (compile { pattern := some (.many
      [{ regexp := some "^Errors:$" },
        { regexp := some "^  (.*): (.*)$", file := some 1, message := some 2,
          loop := some true }]) } 0).toOption.map (fun m =>
        (m.blocks 0 ["Errors:", "  a: x", "  b: y", "", "Errors:", "Errors:"]).map
          fun b => (b.hits.length, (m.reports b).length)) = some [(3, 2), (1, 0)] := by
    decide +kernel
  obtain ⟨m, hcompile, hlengths⟩ := exists_of_toOption_map hblocks
  exact ⟨m, hcompile, emissions_eq_blocks hcompile (.refl m) {} _, hlengths⟩

end LogProblems.Matcher
