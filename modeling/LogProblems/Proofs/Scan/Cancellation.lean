import LogProblems.Proofs.Files.Tree
import LogProblems.Proofs.Scan.EntryPoints

/-!
# Cancelled scans

A scan asks before each line whether it is cancelled, and a scan of octets once more
before the end of the input.  The first question that is answered with yes ends the
scan: the lines before it have been handed to the matchers, the others have not, and
there is no output.  A scan whose questions all are answered with no has the output of
a scan that nobody cancels.

The answers are any function of the number of the question.  Whether a scan that was
cancelled once stays cancelled does not matter, as it asks no further.

* `course_result` and `courseToEnd_result`: a scan that is watched is the scan;
* `course_of_first` and `course_of_none`: a scan of lines with its questions;
* `cancellation_all_or_nothing`: all ways to hand a log to a scanner.
-/

set_option autoImplicit false

namespace LogProblems

open LogProblems.Matcher

/-! ## Scans that are watched -/

/-- What can be seen of a scan while it runs: the questions it asked, by their numbers,
the lines it handed to the matchers, and how it ended. -/
structure Course where
  asked : List Nat
  handed : List String
  result : Except ScanFault Scan

namespace Scan

/-- A scan of lines, watched. -/
def course (cancelled : Nat → Bool) : Scan → List String → Course
  | scan, [] => ⟨[], [], .ok scan⟩
  | scan, line :: rest =>
    if cancelled scan.lines then ⟨[scan.lines], [], .error (.cancelled scan.lines)⟩
    else
      match scan.feed line with
      | .error fault => ⟨[scan.lines], [line], .error fault⟩
      | .ok next =>
        let later := next.course cancelled rest
        ⟨scan.lines :: later.asked, line :: later.handed, later.result⟩

/-- A scan that asks once more before the end, watched. -/
def courseToEnd (cancelled : Nat → Bool) (scan : Scan) (lines : List String) : Course :=
  let seen := scan.course cancelled lines
  match seen.result with
  | .error _ => seen
  | .ok after =>
    { seen with
      asked := seen.asked ++ [after.lines]
      result := if cancelled after.lines then .error (.cancelled after.lines) else .ok after }

/-- A scan that is watched is the scan. -/
theorem course_result (cancelled : Nat → Bool) (scan : Scan) (lines : List String) :
    (scan.course cancelled lines).result = scan.run cancelled lines := by
  induction lines generalizing scan with
  | nil => rfl
  | cons line rest ih =>
    rw [course, run]
    split
    · rfl
    · cases scan.feed line with
      | error fault => rfl
      | ok next => exact ih next

theorem courseToEnd_result (cancelled : Nat → Bool) (scan : Scan) (lines : List String) :
    (scan.courseToEnd cancelled lines).result = scan.runToEnd cancelled lines := by
  rw [courseToEnd, runToEnd, ← course_result]
  cases hresult : (scan.course cancelled lines).result with
  | error fault => simp only [hresult]
  | ok after => rfl

variable {lines : List String} {scan : Scan}

theorem course_of_first (cancelled : Nat → Bool) (h : scan.Sound) {k : Nat} (hk : k < lines.length)
    (hyes : cancelled (scan.lines + k) = true)
    (hno : ∀ i < k, cancelled (scan.lines + i) = false) :
    scan.course cancelled lines
      = ⟨List.range' scan.lines (k + 1), lines.take k,
          .error (.cancelled (scan.lines + k))⟩ := by
  induction lines generalizing scan k with
  | nil => exact absurd hk (Nat.not_lt_zero k)
  | cons line rest ih =>
    cases k with
    | zero =>
      rw [Nat.add_zero] at hyes ⊢
      rw [course, if_pos hyes]
      rfl
    | succ k =>
      have hfirst : cancelled scan.lines = false := hno 0 (Nat.succ_pos k)
      obtain ⟨next, hfeed, hnext⟩ := feed_sound h line
      have hlines := lines_of_feed hfeed
      have hplace : ∀ i, next.lines + i = scan.lines + (i + 1) := by
        intro i
        omega
      have hlater := ih hnext (k := k) (Nat.lt_of_succ_lt_succ hk) (by rw [hplace]; exact hyes)
        (fun i hi => by rw [hplace]; exact hno (i + 1) (Nat.succ_lt_succ hi))
      simp only [course, hfirst, Bool.false_eq_true, if_false, hfeed, hlater]
      rw [hplace, hlines, List.range'_succ (n := k + 1), List.take_succ_cons]

theorem course_of_none (cancelled : Nat → Bool) (h : scan.Sound)
    (hno : ∀ i < lines.length, cancelled (scan.lines + i) = false) :
    ∃ after, scan.feedAll lines = .ok after ∧
      scan.course cancelled lines
        = ⟨List.range' scan.lines lines.length, lines, .ok after⟩ := by
  induction lines generalizing scan with
  | nil => exact ⟨scan, rfl, rfl⟩
  | cons line rest ih =>
    have hfirst : cancelled scan.lines = false := hno 0 (Nat.succ_pos _)
    obtain ⟨next, hfeed, hnext⟩ := feed_sound h line
    have hlines := lines_of_feed hfeed
    have hlater : ∀ i < rest.length, cancelled (next.lines + i) = false := by
      intro i hi
      have hplace : next.lines + i = scan.lines + (i + 1) := by omega
      rw [hplace]
      exact hno (i + 1) (Nat.succ_lt_succ hi)
    obtain ⟨after, hrest, hcourse⟩ := ih hnext hlater
    refine ⟨after, by simp only [feedAll, hfeed, hrest], ?_⟩
    simp only [course, hfirst, Bool.false_eq_true, if_false, hfeed, hcourse]
    rw [hlines, List.length_cons, List.range'_succ]

theorem courseToEnd_of_last (cancelled : Nat → Bool) (h : scan.Sound)
    (hyes : cancelled (scan.lines + lines.length) = true)
    (hno : ∀ i < lines.length, cancelled (scan.lines + i) = false) :
    scan.courseToEnd cancelled lines
      = ⟨List.range' scan.lines (lines.length + 1), lines,
          .error (.cancelled (scan.lines + lines.length))⟩ := by
  obtain ⟨after, hfed, hcourse⟩ := course_of_none cancelled h hno
  have hlines := lines_of_feedAll hfed
  simp only [courseToEnd, hcourse, hlines, hyes, if_true]
  rw [List.range'_1_concat]

theorem courseToEnd_of_none (cancelled : Nat → Bool) (h : scan.Sound)
    (hno : ∀ i < lines.length + 1, cancelled (scan.lines + i) = false) :
    ∃ after, scan.feedAll lines = .ok after ∧
      scan.courseToEnd cancelled lines
        = ⟨List.range' scan.lines (lines.length + 1), lines, .ok after⟩ := by
  obtain ⟨after, hfed, hcourse⟩ :=
    course_of_none cancelled h fun i hi => hno i (Nat.lt_succ_of_lt hi)
  have hlines := lines_of_feedAll hfed
  have hlast := hno lines.length (Nat.lt_succ_self _)
  refine ⟨after, hfed, ?_⟩
  simp only [courseToEnd, hcourse, hlines, hlast, Bool.false_eq_true, if_false]
  rw [List.range'_1_concat]

end Scan

/-! ## All or nothing -/

/-- A scan that may ask `count` questions while it is handed lines either is given up at
the first that is answered with yes, when it has handed out the lines before it, or it
is not given up and has the whole output. -/
structure AllOrNothing (cancelled : Nat → Bool) (count : Nat) (lines : List String)
    (whole : ScanOutput) (course : Course) (result : Except ScanFault ScanOutput) : Prop where
  /-- What is watched is the scan. -/
  result_eq : result = course.result.map (·.finish)
  cancelled_of_first : ∀ k < count, cancelled k = true → (∀ i < k, cancelled i = false) →
    result = .error (.cancelled k) ∧ course.asked = List.range (k + 1)
      ∧ course.handed = lines.take k
  whole_of_none : (∀ k < count, cancelled k = false) →
    result = .ok whole ∧ course.asked = List.range count ∧ course.handed = lines

theorem first_or_none (cancelled : Nat → Bool) (count : Nat) :
    (∃ k < count, cancelled k = true ∧ ∀ i < k, cancelled i = false)
      ∨ ∀ k < count, cancelled k = false := by
  cases hfind : (List.range count).find? cancelled with
  | none =>
    refine Or.inr fun k hk => ?_
    simpa using List.find?_eq_none.1 hfind k (List.mem_range.2 hk)
  | some k =>
    obtain ⟨hyes, hmem, hno⟩ := List.find?_range_eq_some.1 hfind
    exact Or.inl ⟨k, List.mem_range.1 hmem, hyes, fun i hi => by simpa using hno i hi⟩

variable {cancelled : Nat → Bool} {count : Nat} {lines : List String} {whole : ScanOutput}
  {course : Course} {result : Except ScanFault ScanOutput}

/-- There is an output only if no question is answered with yes, and then it is whole. -/
theorem AllOrNothing.ok_iff (h : AllOrNothing cancelled count lines whole course result)
    (output : ScanOutput) :
    result = .ok output ↔ output = whole ∧ ∀ k < count, cancelled k = false := by
  rcases first_or_none cancelled count with ⟨k, hk, hyes, hno⟩ | hnone
  · rw [(h.cancelled_of_first k hk hyes hno).1]
    constructor
    · intro herror
      cases herror
    · rintro ⟨-, hnone⟩
      rw [hnone k hk] at hyes
      cases hyes
  · rw [(h.whole_of_none hnone).1]
    constructor
    · intro hok
      exact ⟨(Except.ok.inj hok).symm, hnone⟩
    · rintro ⟨rfl, -⟩
      rfl

namespace Scan

variable {scan : Scan}

theorem run_allOrNothing (h : scan.Sound) (hlines : scan.lines = 0) (cancelled : Nat → Bool)
    (lines : List String) :
    ∃ whole, scan.outcome lines = .ok whole ∧
      AllOrNothing cancelled lines.length lines whole (scan.course cancelled lines)
        ((scan.run cancelled lines).map (·.finish)) := by
  obtain ⟨after, hfed, -⟩ := feedAll_sound lines h
  refine ⟨after.finish, by rw [outcome, hfed]; rfl, by rw [course_result], ?_, ?_⟩
  · intro k hk hyes hno
    have hcourse := course_of_first cancelled h hk
    simp only [hlines, Nat.zero_add, ← List.range_eq_range'] at hcourse
    rw [← course_result, hcourse hyes hno]
    exact ⟨rfl, rfl, rfl⟩
  · intro hnone
    obtain ⟨after', hfed', hcourse⟩ := course_of_none cancelled h
      (by simpa only [hlines, Nat.zero_add] using hnone)
    obtain rfl := Except.ok.inj (hfed.symm.trans hfed')
    rw [← course_result, hcourse, hlines, ← List.range_eq_range']
    exact ⟨rfl, rfl, rfl⟩

theorem runToEnd_allOrNothing (h : scan.Sound) (hlines : scan.lines = 0)
    (cancelled : Nat → Bool) (lines : List String) :
    ∃ whole, scan.outcome lines = .ok whole ∧
      AllOrNothing cancelled (lines.length + 1) lines whole (scan.courseToEnd cancelled lines)
        ((scan.runToEnd cancelled lines).map (·.finish)) := by
  obtain ⟨after, hfed, -⟩ := feedAll_sound lines h
  refine ⟨after.finish, by rw [outcome, hfed]; rfl, by rw [courseToEnd_result], ?_, ?_⟩
  · intro k hk hyes hno
    rw [← courseToEnd_result]
    rcases Nat.lt_or_eq_of_le (Nat.le_of_lt_succ hk) with hlt | rfl
    · -- The scan is given up before a line, so it does not come to its end.
      have hcourse := course_of_first cancelled h hlt
      simp only [hlines, Nat.zero_add, ← List.range_eq_range'] at hcourse
      rw [courseToEnd, hcourse hyes hno]
      exact ⟨rfl, rfl, rfl⟩
    · have hcourse := @courseToEnd_of_last lines scan cancelled h
      simp only [hlines, Nat.zero_add, ← List.range_eq_range'] at hcourse
      rw [hcourse hyes hno, List.take_length]
      exact ⟨rfl, rfl, rfl⟩
  · intro hnone
    obtain ⟨after', hfed', hcourse⟩ := courseToEnd_of_none cancelled h
      (by simpa only [hlines, Nat.zero_add] using hnone)
    obtain rfl := Except.ok.inj (hfed.symm.trans hfed')
    rw [← courseToEnd_result, hcourse, hlines, ← List.range_eq_range']
    exact ⟨rfl, rfl, rfl⟩

end Scan

/-- Two scans of the same lines, of which one asks once more, differ exactly if the
question before the end is the first that is answered with yes. -/
theorem ne_iff_first_at_end {result' : Except ScanFault ScanOutput} {course' : Course}
    (h : AllOrNothing cancelled lines.length lines whole course result)
    (h' : AllOrNothing cancelled (lines.length + 1) lines whole course' result') :
    result' ≠ result ↔
      cancelled lines.length = true ∧ ∀ i < lines.length, cancelled i = false := by
  rcases first_or_none cancelled lines.length with ⟨k, hk, hyes, hno⟩ | hnone
  · rw [(h.cancelled_of_first k hk hyes hno).1,
      (h'.cancelled_of_first k (Nat.lt_succ_of_lt hk) hyes hno).1]
    constructor
    · intro hne
      exact absurd rfl hne
    · rintro ⟨-, hnone⟩
      rw [hnone k hk] at hyes
      cases hyes
  · rw [(h.whole_of_none hnone).1]
    cases hlast : cancelled lines.length with
    | true =>
      rw [(h'.cancelled_of_first _ (Nat.lt_succ_self _) hlast hnone).1]
      simpa using hnone
    | false =>
      have hall : ∀ k < lines.length + 1, cancelled k = false := by
        intro k hk
        rcases Nat.lt_or_eq_of_le (Nat.le_of_lt_succ hk) with hlt | rfl
        · exact hnone k hlt
        · exact hlast
      rw [(h'.whole_of_none hall).1]
      simp

namespace Scanner

theorem scanOctets_allOrNothing (ds : List Definition) (options : ScanOptions)
    (cancelled : Nat → Bool) (octets : List UInt8) :
    ∃ whole, (ofDefinitions ds options).scanOctets (fun _ => false) octets = .ok whole ∧
      AllOrNothing cancelled ((linesOfOctets octets).length + 1) (linesOfOctets octets) whole
        ((ofDefinitions ds options).begin.courseToEnd cancelled (linesOfOctets octets))
        ((ofDefinitions ds options).scanOctets cancelled octets) ∧
      ((ofDefinitions ds options).scanOctets cancelled octets
          ≠ (ofDefinitions ds options).scanLines cancelled (linesOfOctets octets) ↔
        cancelled (linesOfOctets octets).length = true
          ∧ ∀ i < (linesOfOctets octets).length, cancelled i = false) := by
  have hbegin := begin_sound ds options
  obtain ⟨whole, houtcome, hend⟩ :=
    Scan.runToEnd_allOrNothing hbegin rfl cancelled (linesOfOctets octets)
  obtain ⟨whole', houtcome', hrun⟩ :=
    Scan.run_allOrNothing hbegin rfl cancelled (linesOfOctets octets)
  obtain rfl := Except.ok.inj (houtcome.symm.trans houtcome')
  refine ⟨whole, ?_, hend, ne_iff_first_at_end hrun hend⟩
  rw [scanOctets, Scan.runToEnd, Scan.run_never, ← houtcome, Scan.outcome]
  cases (ofDefinitions ds options).begin.feedAll (linesOfOctets octets) <;> rfl

/-- A file that can be read is scanned like its octets, as the log. -/
theorem scanFile_of_read (ds : List Definition) (options : ScanOptions)
    (cancelled : Nat → Bool) {files : FileTree} {path : String} {octets : List UInt8}
    (h : files.read path = .ok octets) :
    (ofDefinitions ds options).scanFile cancelled files path
      = (ofDefinitions ds { options with logPath := some path }).scanOctets cancelled octets := by
  rw [scanFile, h]
  rfl

end Scanner

/-- **A cancelled scan counts whole lines and gives nothing else.**

A scan of lines asks before each of them, a scan of octets or of a file that can be read
once more before the end.  It is given up at the first question that is answered with
yes, with the number of the question as the number of the lines that were handed to the
matchers; else it has the output of a scan that nobody cancels, and it never has any
other output.  Scans of the same lines in two ways differ only where the question before
the end is the first that is answered with yes. -/
theorem cancellation_all_or_nothing (ds : List Definition) (options : ScanOptions)
    (cancelled : Nat → Bool) :
    (∀ lines, ∃ whole,
      (Scanner.ofDefinitions ds options).scanLines (fun _ => false) lines = .ok whole ∧
      AllOrNothing cancelled lines.length lines whole
        ((Scanner.ofDefinitions ds options).begin.course cancelled lines)
        ((Scanner.ofDefinitions ds options).scanLines cancelled lines) ∧
      ∀ output, (Scanner.ofDefinitions ds options).scanLines cancelled lines = .ok output →
        output = whole) ∧
    (∀ octets, ∃ whole,
      (Scanner.ofDefinitions ds options).scanOctets (fun _ => false) octets = .ok whole ∧
      AllOrNothing cancelled ((linesOfOctets octets).length + 1) (linesOfOctets octets) whole
        ((Scanner.ofDefinitions ds options).begin.courseToEnd cancelled (linesOfOctets octets))
        ((Scanner.ofDefinitions ds options).scanOctets cancelled octets) ∧
      (∀ output, (Scanner.ofDefinitions ds options).scanOctets cancelled octets = .ok output →
        output = whole) ∧
      ((Scanner.ofDefinitions ds options).scanOctets cancelled octets
          ≠ (Scanner.ofDefinitions ds options).scanLines cancelled (linesOfOctets octets) ↔
        cancelled (linesOfOctets octets).length = true
          ∧ ∀ i < (linesOfOctets octets).length, cancelled i = false)) ∧
    ∀ files path octets, files.read path = .ok octets → ∃ whole,
      (Scanner.ofDefinitions ds options).scanFile (fun _ => false) files path = .ok whole ∧
      AllOrNothing cancelled ((linesOfOctets octets).length + 1) (linesOfOctets octets) whole
        ((Scanner.ofDefinitions ds { options with logPath := some path }).begin.courseToEnd
          cancelled (linesOfOctets octets))
        ((Scanner.ofDefinitions ds options).scanFile cancelled files path) ∧
      (∀ output, (Scanner.ofDefinitions ds options).scanFile cancelled files path = .ok output →
        output = whole) ∧
      ((Scanner.ofDefinitions ds options).scanFile cancelled files path
          ≠ (Scanner.ofDefinitions ds { options with logPath := some path }).scanLines cancelled
              (linesOfOctets octets) ↔
        cancelled (linesOfOctets octets).length = true
          ∧ ∀ i < (linesOfOctets octets).length, cancelled i = false) := by
  refine ⟨?_, ?_, ?_⟩
  · intro lines
    obtain ⟨whole, houtcome, hrun⟩ :=
      Scan.run_allOrNothing (Scanner.begin_sound ds options) rfl cancelled lines
    refine ⟨whole, ?_, hrun, fun output hok => ((hrun.ok_iff output).1 hok).1⟩
    rw [Scanner.scanLines, Scan.run_never]
    exact houtcome
  · intro octets
    obtain ⟨whole, hwhole, hend, hne⟩ :=
      Scanner.scanOctets_allOrNothing ds options cancelled octets
    exact ⟨whole, hwhole, hend, fun output hok => ((hend.ok_iff output).1 hok).1, hne⟩
  · intro files path octets hread
    obtain ⟨whole, hwhole, hend, hne⟩ :=
      Scanner.scanOctets_allOrNothing ds { options with logPath := some path } cancelled octets
    simp only [Scanner.scanFile_of_read ds options _ hread]
    exact ⟨whole, hwhole, hend, fun output hok => ((hend.ok_iff output).1 hok).1, hne⟩

/-- A file of two lines and a scan that is cancelled while it reads the second: the scan
of the file is given up at its end, the scan of the lines is not given up. -/
theorem cancellation_all_or_nothing_late :
    ∃ (files : FileTree) (whole : ScanOutput), files.read "a" = .ok [0x78, 0x0A, 0x79] ∧
      (Scanner.ofDefinitions [{ pattern := some (.one { regexp := some "^(.*)$" }) }] {}).scanFile
        (fun i => decide (2 ≤ i)) files "a" = .error (.cancelled 2) ∧
      (Scanner.ofDefinitions [{ pattern := some (.one { regexp := some "^(.*)$" }) }]
        { logPath := some "a" }).scanLines (fun i => decide (2 ≤ i)) ["x", "y"] = .ok whole := by
  have hread : ({ entries := [(["a"], .file [0x78, 0x0A, 0x79])] } : FileTree).read "a"
      = .ok [0x78, 0x0A, 0x79] := (FileTree.isName_letter (by simp)).read_eq_ok rfl
  have hlines : linesOfOctets [0x78, 0x0A, 0x79] = ["x", "y"] := by decide
  have hno : ∀ i < 2, decide (2 ≤ i) = false := by decide
  obtain ⟨-, -, hfiles⟩ := cancellation_all_or_nothing
    [{ pattern := some (.one { regexp := some "^(.*)$" }) }] {} (fun i => decide (2 ≤ i))
  obtain ⟨_, _, hfile, _, _⟩ := hfiles _ "a" _ hread
  obtain ⟨hall, _, _⟩ := cancellation_all_or_nothing
    [{ pattern := some (.one { regexp := some "^(.*)$" }) }] { logPath := some "a" }
    (fun i => decide (2 ≤ i))
  obtain ⟨whole, _, hlist, _⟩ := hall ["x", "y"]
  rw [hlines] at hfile
  exact ⟨_, whole, hread, (hfile.cancelled_of_first 2 (by decide) rfl hno).1,
    (hlist.whole_of_none hno).1⟩

end LogProblems
