import Mathlib.Algebra.GroupWithZero.Nat
import Mathlib.Algebra.Ring.Int.Defs
import LogProblems.Proofs.Matcher.Reachable
import LogProblems.Proofs.Matcher.Report

/-!
# The range of a report

A step that captures positions writes some of the four ends of the range under
construction, and later writes win.  So each end of a finished range is what the last
write to it left there, counted from zero once and clamped, or the 1 that it started
with.  A matcher of whole files writes nothing.  In the log, the range is the start of
the line that opened the block; its number is held in a machine word, and a number
that does not fit turns negative.

* `resolveLocation_get`: what one step does to an end;
* `gathered_range`: what the matches of a report do to it;
* `anchored_toRange` and `anchored_toRange_of_le`: lines of the log as ranges;
* `report_ranges`: the reports of a whole run;
* `report_range_wraps`: a line too far down the log.
-/

set_option autoImplicit false

namespace LogProblems.Matcher

open LogProblems.Text

/-! ## Ends of ranges -/

/-- The four ends of a range. -/
inductive Endpoint where
  | startLine
  | startChar
  | endLine
  | endChar
  deriving DecidableEq, Repr, Inhabited

namespace Endpoint

/-- All ends, in the order of a range. -/
def all : List Endpoint := [startLine, startChar, endLine, endChar]

/-- The end of a finished range. -/
def ofRange (r : Range) : Endpoint → Nat
  | startLine => r.startLine
  | startChar => r.startChar
  | endLine => r.endLine
  | endChar => r.endChar

/-- Captured values of the end count from one. -/
def countsFromOne (indexing : Indexing) : Endpoint → Bool
  | startLine => indexing.lowersLines
  | startChar => indexing.lowersColumns
  | endLine => indexing.lowersLines
  | endChar => indexing.lowersColumns

/-- A captured value, counted from zero and clamped. -/
def settle (indexing : Indexing) (e : Endpoint) (v : Int) : Int :=
  clampPosition (if e.countsFromOne indexing then oneDown v else v)

end Endpoint

/-- A captured value for an end of the range. -/
structure Write where
  endpoint : Endpoint
  value : Int
  deriving DecidableEq, Repr, Inhabited

/-- What a match writes, in order.  A combined location writes all ends, also when its
group took no part.  A line alone stands for the whole line. -/
def LocationCapture.writes (groups : Groups) : LocationCapture → List Write
  | .wholeFile => []
  | .combined group =>
    let range := combinedRange ((groups.get? group).getD "1,1,1,1")
    [⟨.startLine, range.startLine⟩, ⟨.startChar, range.startChar⟩, ⟨.endLine, range.endLine⟩,
      ⟨.endChar, range.endChar⟩]
  | .discrete d =>
    (match positionIn groups d.line with
      | some v => [⟨.startLine, v⟩, ⟨.endLine, v⟩, ⟨.endChar, lineEnd⟩]
      | none => [])
    ++ ((positionIn groups d.endLine).map (Write.mk .endLine)).toList
    ++ ((positionIn groups d.column).map (Write.mk .startChar)).toList
    ++ ((positionIn groups d.endColumn).map (Write.mk .endChar)).toList

/-- What a match writes; a step that continues a message writes nothing. -/
def Hit.writes (hit : Hit) : List Write :=
  match hit.step.fields? with
  | none => []
  | some fields => fields.location.writes hit.groups

/-- The last value written to an end. -/
def lastWrite (e : Endpoint) (writes : List Write) : Option Int :=
  ((writes.filter (·.endpoint = e)).map (·.value)).getLast?

theorem lastWrite_append (e : Endpoint) (writes later : List Write) :
    lastWrite e (writes ++ later) = (lastWrite e later).or (lastWrite e writes) := by
  simp only [lastWrite, List.filter_append, List.map_append, List.getLast?_append]

/-- The end of a report's range that is not in the log. -/
def Compiled.endOf (m : Compiled) (hits : List Hit) (e : Endpoint) : Int :=
  ((lastWrite e (hits.flatMap Hit.writes)).map (e.settle m.indexing)).getD 1

/-! ## One step -/

namespace WorkingRange

/-- The end of a range under construction. -/
def get (r : WorkingRange) : Endpoint → Int
  | .startLine => r.startLine
  | .startChar => r.startChar
  | .endLine => r.endLine
  | .endChar => r.endChar

/-- The range with another value at one end. -/
def set (r : WorkingRange) (e : Endpoint) (v : Int) : WorkingRange :=
  match e with
  | .startLine => { r with startLine := v }
  | .startChar => { r with startChar := v }
  | .endLine => { r with endLine := v }
  | .endChar => { r with endChar := v }

/-- Writes a captured value, counted from zero. -/
def write (indexing : Indexing) (r : WorkingRange) (w : Write) : WorkingRange :=
  r.set w.endpoint (lower (w.endpoint.countsFromOne indexing) w.value)

variable {r : WorkingRange} {indexing : Indexing}

theorem get_set_self (e : Endpoint) (v : Int) : (r.set e v).get e = v := by
  cases e <;> rfl

theorem get_set_of_ne {e e' : Endpoint} (h : e' ≠ e) (v : Int) : (r.set e' v).get e = r.get e := by
  cases e <;> cases e' <;> first | rfl | exact absurd rfl h

theorem get_clamp (r : WorkingRange) (e : Endpoint) : r.clamp.get e = clampPosition (r.get e) := by
  cases e <;> rfl

theorem get_default (e : Endpoint) : ({} : WorkingRange).get e = 1 := by
  cases e <;> rfl

theorem InBounds.get (h : r.InBounds) (e : Endpoint) : 0 ≤ r.get e ∧ r.get e ≤ lineEnd := by
  cases e with
  | startLine => exact h.startLine
  | startChar => exact h.startChar
  | endLine => exact h.endLine
  | endChar => exact h.endChar

theorem InBounds.ofRange_toRange (h : r.InBounds) (e : Endpoint) :
    (e.ofRange r.toRange : Int) = r.get e := by
  have hclamp : (e.ofRange r.toRange : Int) = clampPosition (r.get e) := by
    cases e <;> exact Int.toNat_of_nonneg (clampPosition_nonneg _)
  rw [hclamp, clampPosition_eq_self (h.get e)]

theorem get_foldl_write (r : WorkingRange) (writes : List Write) (e : Endpoint) :
    (writes.foldl (write indexing) r).get e
      = ((lastWrite e writes).map (lower (e.countsFromOne indexing))).getD (r.get e) := by
  induction writes using List.reverseRecOn with
  | nil => rfl
  | append_singleton writes w ih =>
    rw [List.foldl_append, List.foldl_cons, List.foldl_nil, write, lastWrite_append]
    by_cases h : w.endpoint = e
    · subst h
      simp [get_set_self, lastWrite]
    · rw [get_set_of_ne h, ih]
      simp [lastWrite, h]

end WorkingRange

theorem lower_lineEnd (counted : Bool) : lower counted lineEnd = lineEnd := by
  cases counted <;> simp [lower, oneDown]

variable {groups : Groups} {indexing : Indexing} {r : WorkingRange}

theorem resolveDiscrete_eq_foldl (d : DiscreteGroups) (groups : Groups) (indexing : Indexing)
    (r : WorkingRange) :
    resolveDiscrete d groups indexing r
      = ((LocationCapture.discrete d).writes groups).foldl (WorkingRange.write indexing) r := by
  have hend : lower indexing.lowersColumns lineEnd = lineEnd := lower_lineEnd _
  simp only [resolveDiscrete, LocationCapture.writes, List.foldl_append]
  generalize positionIn groups d.line = line
  generalize positionIn groups d.endLine = endLine
  generalize positionIn groups d.column = column
  generalize positionIn groups d.endColumn = endColumn
  cases line <;> cases endLine <;> cases column <;> cases endColumn <;>
    simp only [Option.map_none, Option.map_some, Option.toList_none, Option.toList_some,
      List.foldl_nil, List.foldl_cons, WorkingRange.write, WorkingRange.set,
      Endpoint.countsFromOne, hend]

theorem lowered_combinedRange_eq_foldl (group : Nat) (groups : Groups) (indexing : Indexing)
    (r : WorkingRange) :
    (combinedRange ((groups.get? group).getD "1,1,1,1")).lowered indexing
      = ((LocationCapture.combined group).writes groups).foldl (WorkingRange.write indexing) r :=
  rfl

/-- Each end after a step: the last value written to it, counted from zero once and
clamped, or the value it had. -/
theorem resolveLocation_get (h : r.InBounds) (capture : LocationCapture) (groups : Groups)
    (indexing : Indexing) (e : Endpoint) :
    (resolveLocation capture groups indexing r).get e
      = ((lastWrite e (capture.writes groups)).map (e.settle indexing)).getD (r.get e) := by
  have hclamped : ∀ writes : List Write,
      ((writes.foldl (WorkingRange.write indexing) r).clamp).get e
        = ((lastWrite e writes).map (e.settle indexing)).getD (r.get e) := by
    intro writes
    rw [WorkingRange.get_clamp, WorkingRange.get_foldl_write]
    cases lastWrite e writes with
    | none => exact clampPosition_eq_self (h.get e)
    | some v => rfl
  cases capture with
  | wholeFile => rfl
  | combined group =>
    rw [resolveLocation, lowered_combinedRange_eq_foldl group groups indexing r]
    exact hclamped _
  | discrete d =>
    rw [resolveLocation, resolveDiscrete_eq_foldl]
    exact hclamped _

/-! ## All matches of a report -/

namespace Compiled

variable {m : Compiled} {context : Context}

theorem gathered_inBounds (hmode : m.pathMode ≠ .logFile) (hits : List Hit) :
    (m.gathered context hits).range.InBounds := by
  induction hits using List.reverseRecOn with
  | nil => exact WorkingRange.inBounds_default
  | append_singleton hits hit ih =>
    rw [gathered_concat]
    exact State.gather_inBounds hmode ih hit.step hit.groups hit.number context

/-- Outside the log, each end is what the last write to it left there. -/
theorem gathered_range (hmode : m.pathMode ≠ .logFile) (hits : List Hit) (e : Endpoint) :
    (m.gathered context hits).range.get e = m.endOf hits e := by
  induction hits using List.reverseRecOn with
  | nil => exact WorkingRange.get_default e
  | append_singleton hits hit ih =>
    have hbounds : (m.gathered context hits).range.InBounds := gathered_inBounds hmode hits
    have hone : (m.gathered context (hits ++ [hit])).range.get e
        = ((lastWrite e hit.writes).map (e.settle m.indexing)).getD
          ((m.gathered context hits).range.get e) := by
      rw [gathered_concat]
      show ((m.gathered context hits).locate m hit.step hit.groups hit.number
        context).range.get e = _
      simp only [State.locate, hmode, if_false, Hit.writes]
      cases hit.step.fields? with
      | none => rfl
      | some fields => exact resolveLocation_get hbounds fields.location hit.groups m.indexing e
    rw [hone, ih, endOf, endOf, List.flatMap_append, List.flatMap_singleton, lastWrite_append,
      Option.map_or, Option.getD_or]

/-- In the log, the range is that of the line that opened the block. -/
theorem gathered_range_of_logFile (hmode : m.pathMode = .logFile) (first : Hit)
    (later : List Hit) :
    (m.gathered context (first :: later)).range = .anchoredAt first.number := by
  have hlocated : ∀ (s : State) (hit : Hit),
      (s.gather m hit.step hit.groups hit.number context).range
        = if s.cursor = 0 then .anchoredAt hit.number else s.range := by
    intro s hit
    show (s.locate m hit.step hit.groups hit.number context).range = _
    simp only [State.locate, hmode, if_true]
  induction later using List.reverseRecOn with
  | nil => exact hlocated .blank first
  | append_singleton later hit ih =>
    rw [← List.cons_append, gathered_concat]
    refine (hlocated _ hit).trans ?_
    rw [gathered_cursor, if_neg (by simp), ih]

theorem report_endpoint (hmode : m.pathMode ≠ .logFile) (hits : List Hit) (e : Endpoint) :
    (e.ofRange (m.report context hits).record.range : Int) = m.endOf hits e := by
  have hbounds : (m.gathered context hits).range.InBounds := gathered_inBounds hmode hits
  exact (hbounds.ofRange_toRange e).trans (gathered_range hmode hits e)

end Compiled

/-! ## Lines of the log -/

theorem wrapInt64_of_lt {n : Nat} (h : n < 2 ^ 63) : wrapInt64 n = n := by
  simp only [wrapInt64, Int.bmod]
  omega

theorem wrapInt64_of_le {n : Nat} (h : 2 ^ 63 ≤ n) (hlt : n < 2 ^ 64) :
    wrapInt64 n = n - 2 ^ 64 := by
  simp only [wrapInt64, Int.bmod]
  omega

namespace WorkingRange

theorem anchored_toRange {n : Nat} (h : n < 2 ^ 63) :
    (anchoredAt n).toRange = ⟨min n lineEnd, 0, min n lineEnd, 0⟩ := by
  have hline : (clampPosition (wrapInt64 n)).toNat = min n lineEnd := by
    rw [wrapInt64_of_lt h, clampPosition]
    omega
  simp only [anchoredAt, toRange, hline]
  rfl

/-- A number that needs all bits of a word is taken for a negative one. -/
theorem anchored_toRange_of_le {n : Nat} (h : 2 ^ 63 ≤ n) (hlt : n < 2 ^ 64) :
    (anchoredAt n).toRange = ⟨0, 0, 0, 0⟩ := by
  have hline : (clampPosition (wrapInt64 n)).toNat = 0 := by
    rw [wrapInt64_of_le h hlt, clampPosition]
    omega
  simp only [anchoredAt, toRange, hline]
  rfl

end WorkingRange

/-! ## Matchers of whole files -/

theorem StepDefinition.Compiles.location_of_wholeFile {only : Bool} {d : StepDefinition}
    {s : Step} (h : d.Compiles true only s) {fields : FieldGroups}
    (hfields : s.fields? = some fields) : fields.location = .wholeFile := by
  rw [Step.fields?, h.role, StepDefinition.role] at hfields
  cases hmessage : d.message with
  | none =>
    rw [hmessage] at hfields
    cases hfields
    rfl
  | some message =>
    rw [hmessage] at hfields
    cases hloops : d.loops only && !d.extracts <;> simp only [hloops] at hfields <;> cases hfields
    rfl

/-- A matcher of whole files writes no positions. -/
theorem writes_of_wholeFile {d : Definition} {place : Nat} {m : Compiled}
    (h : compile d place = .ok m) (hwhole : d.wholeFile = true) {hit : Hit}
    (hmem : hit.step ∈ m.steps) : hit.writes = [] := by
  obtain ⟨_, steps, hsteps, rfl⟩ := compile_eq_ok_iff.1 h
  obtain ⟨k, hk⟩ := List.getElem?_of_mem hmem
  obtain ⟨sd, _, hcompiles⟩ := exists_getElem?_of_forall₂ (compileSteps_ok hsteps) hk
  rw [hwhole] at hcompiles
  unfold Hit.writes
  split
  · rfl
  · next fields hfields => rw [hcompiles.location_of_wholeFile hfields, LocationCapture.writes]

/-- A range of which every end is known. -/
theorem range_ext {r : Range} {n : Nat} (h : ∀ e : Endpoint, e.ofRange r = n) :
    r = ⟨n, n, n, n⟩ := by
  obtain ⟨startLine, startChar, endLine, endChar⟩ := r
  rw [show startLine = n from h .startLine, show startChar = n from h .startChar,
    show endLine = n from h .endLine, show endChar = n from h .endChar]

/-- **The range of a report.**

Whatever lines a compiled matcher is given, the range of a report is found like this.
In the log, it is the start of the line that opened the block, or the end of all lines
when the line is farther down, as long as the number of the line fits a signed word;
numbers past that give the first line.  Outside the log, each end is the last value
that the matches of the report write to it, counted from zero once and clamped, and 1
when they write none; a matcher of whole files writes none at all. -/
theorem report_ranges {d : Definition} {place : Nat} {m : Compiled}
    (h : compile d place = .ok m) (context : Context) (number : Nat) (lines : List String) :
    ∃ es, State.blank.emissions m context number lines = .ok es ∧
      List.Forall₂
        (fun hits e =>
          ∃ start, m.Follows number lines start hits ∧
            (m.pathMode = .logFile →
              (number + start < 2 ^ 63 → e.record.range
                = ⟨min (number + start) lineEnd, 0, min (number + start) lineEnd, 0⟩) ∧
              (2 ^ 63 ≤ number + start → number + start < 2 ^ 64 →
                e.record.range = ⟨0, 0, 0, 0⟩)) ∧
            (m.pathMode ≠ .logFile →
              (d.steps.head?.bind (·.kind) = some "file" → e.record.range = ⟨1, 1, 1, 1⟩) ∧
              ∀ endpoint : Endpoint,
                (endpoint.ofRange e.record.range : Int) = m.endOf hits endpoint))
        ((m.blocks number lines).flatMap m.reports) es := by
  refine Compiled.emissions_forall₂ (compile_lawful h) context number lines ?_
  intro start hits hfollows
  refine ⟨start, hfollows, fun hmode => ?_, fun hmode => ⟨fun hkind => ?_, ?_⟩⟩
  · cases hits with
    | nil => exact absurd rfl hfollows.ne_nil
    | cons first later =>
      have hnumber : first.number = number + start := (hfollows.turn 0 first rfl).1
      have hrange : (m.report context (first :: later)).record.range
          = (WorkingRange.anchoredAt ((number + start : Nat) : Int)).toRange := by
        show (m.gathered context (first :: later)).range.toRange = _
        rw [Compiled.gathered_range_of_logFile hmode, hnumber]
      rw [hrange]
      exact ⟨WorkingRange.anchored_toRange, WorkingRange.anchored_toRange_of_le⟩
  · have hwhole : d.wholeFile = true := by simp [Definition.wholeFile, hkind]
    have hnone : hits.flatMap Hit.writes = [] := by
      rw [List.flatMap_eq_nil_iff]
      intro hit hmem
      obtain ⟨k, hk⟩ := List.getElem?_of_mem hmem
      have hturn := (hfollows.turn k hit hk).2.1
      exact writes_of_wholeFile h hwhole
        (List.mem_of_getElem? (Compiled.getElem?_of_stepAt hturn))
    refine range_ext fun endpoint => ?_
    have hend : (endpoint.ofRange (m.report context hits).record.range : Int)
        = m.endOf hits endpoint := Compiled.report_endpoint hmode hits endpoint
    rw [Compiled.endOf, hnone] at hend
    exact Int.ofNat_inj.1 hend
  · exact Compiled.report_endpoint hmode hits

/-- A position and two lines that move its end: a line alone stands for the whole line,
the column and the end refine it, and the second end line replaces the first. -/
theorem report_ranges_list :
    ∃ m es, compile { pattern := some (.many
        [{ regexp := some "^at (.*):(.*)$", line := some 1, column := some 2 },
          { regexp := some "^to (.*)$", endLine := some 1, loop := some true }]) } 0 = .ok m ∧
      State.blank.emissions m {} 0 ["at 5:7", "to 6", "to 9"] = .ok es ∧
      es.map (fun e => Endpoint.all.map fun endpoint =>
          (endpoint.ofRange e.record.range : Int))
        = [[4, 6, 5, (lineEnd : Int)], [4, 6, 8, (lineEnd : Int)]] := by
  generalize hd : ({ pattern := some (.many
    [{ regexp := some "^at (.*):(.*)$", line := some 1, column := some 2 },
      { regexp := some "^to (.*)$", endLine := some 1, loop := some true }]) } : Definition) = d
  have hmodes : (compile d 0).toOption.map (·.pathMode) = some .absolute := by
    subst hd
    decide +kernel
  have hends : (compile d 0).toOption.map (fun m =>
      ((m.blocks 0 ["at 5:7", "to 6", "to 9"]).flatMap m.reports).map fun hits =>
        Endpoint.all.map (m.endOf hits))
      = some [[4, 6, 5, (lineEnd : Int)], [4, 6, 8, (lineEnd : Int)]] := by
    subst hd
    decide +kernel
  obtain ⟨m, hcompile, hmode⟩ := exists_of_toOption_map hmodes
  simp only [hcompile, Except.toOption, Option.map_some, Option.some.injEq] at hends
  obtain ⟨es, hes, hall⟩ := report_ranges hcompile {} 0 ["at 5:7", "to 6", "to 9"]
  refine ⟨m, es, hcompile, hes, Eq.trans (map_eq_of_forall₂ (hall.imp ?_)) hends⟩
  rintro hits e ⟨_, _, _, houtside⟩
  exact List.map_congr_left fun endpoint _ => (houtside (by rw [hmode]; decide)).2 endpoint

theorem emissions_of_idle {m : Compiled} {step : Step} (hstep : m.steps[0]? = some step)
    (context : Context) {skipped : List String}
    (hskipped : ∀ line ∈ skipped, step.pattern.find line = none) (number : Nat)
    (lines : List String) :
    State.blank.emissions m context number (skipped ++ lines)
      = State.blank.emissions m context (number + skipped.length) lines := by
  induction skipped generalizing number with
  | nil => rfl
  | cons line rest ih =>
    have hadvance : State.blank.advance m line number context = .ok (.blank, none) := by
      rw [State.advance_of_unmatched (s := .blank) hstep (hskipped line List.mem_cons_self)]
      simp [State.unmatched]
    have hempty : ∀ es : Except MissingStep (List Emission),
        es.map ((none : Option Emission).toList ++ ·) = es := by
      intro es
      cases es <;> rfl
    rw [List.cons_append, Compiled.emissions_cons hadvance, hempty,
      ih (fun line hmem => hskipped line (List.mem_cons_of_mem _ hmem)), List.length_cons,
      Nat.add_assoc, Nat.add_comm 1]

/-- A problem in the log, at a line whose number needs all bits of a word: the range is
that of the first line, and not of the last one there can be. -/
theorem report_range_wraps :
    ∃ m e, compile
        { linkToLogFile := some (.flag true), pattern := some (.one { regexp := some "^X$" }) } 0
          = .ok m ∧
      m.pathMode = .logFile ∧
      State.blank.emissions m {} 0 (List.replicate (2 ^ 63) "" ++ ["X"]) = .ok [e] ∧
      e.record.range ≠ ⟨min (2 ^ 63) lineEnd, 0, min (2 ^ 63) lineEnd, 0⟩ ∧
      e.record.range = ⟨0, 0, 0, 0⟩ := by
  generalize hd : (
    { linkToLogFile := some (.flag true), pattern := some (.one { regexp := some "^X$" }) } :
      Definition) = d
  have hidle : (compile d 0).toOption.map (fun m =>
      (m.pathMode, (m.steps[0]?).map fun step => (step.pattern.find "").isNone))
      = some (.logFile, some true) := by
    subst hd
    decide +kernel
  have hlast : (compile d 0).toOption.map (fun m =>
      ((State.blank.emissions m {} (2 ^ 63) ["X"]).toOption.map fun es =>
        es.map (·.record.range))) = some (some [⟨0, 0, 0, 0⟩]) := by
    subst hd
    decide +kernel
  obtain ⟨m, hcompile, hfirst⟩ := exists_of_toOption_map hidle
  obtain ⟨hmode, hfind⟩ := Prod.mk.inj hfirst
  obtain ⟨step, hstep, hnone⟩ := Option.map_eq_some_iff.1 hfind
  simp only [hcompile, Except.toOption, Option.map_some, Option.some.injEq] at hlast
  have hskipped : ∀ line ∈ List.replicate (2 ^ 63) "", step.pattern.find line = none := by
    intro line hmem
    rw [List.eq_of_mem_replicate hmem]
    exact Option.isNone_iff_eq_none.1 hnone
  have hrun : State.blank.emissions m {} 0 (List.replicate (2 ^ 63) "" ++ ["X"])
      = State.blank.emissions m {} (2 ^ 63) ["X"] := by
    rw [emissions_of_idle hstep {} hskipped, List.length_replicate, Nat.zero_add]
  cases hes : State.blank.emissions m {} (2 ^ 63) ["X"] with
  | error fault =>
    rw [hes] at hlast
    cases hlast
  | ok es =>
    rw [hes] at hlast
    obtain ⟨e, rfl, hrange⟩ := List.map_eq_singleton_iff.1 (Option.some.inj hlast)
    refine ⟨m, e, hcompile, hmode, hrun.trans hes, ?_, hrange⟩
    rw [hrange]
    decide

end LogProblems.Matcher
