import Mathlib.Algebra.GroupWithZero.Nat
import Mathlib.Data.List.Perm.Basic
import LogProblems.Proofs.Diagnostic.Grouping
import LogProblems.Proofs.Scan.Progress

/-!
# Matchers side by side

The matchers of a scan share its input, its context and its listing, but no state:
each reports what it reports alone, and the scan only lines the reports up, line by
line and in the order of the matchers.

* `advanceAll_eq_map`: a line, with the share of each matcher kept apart;
* `shares_eq`: the share of each matcher in a whole scan;
* `outcome_of_emitted`: a scan files what it emits;
* `shares_flatten_perm`: what is emitted, matcher by matcher;
* `scan_interleaves`: scans with any compiled matchers.
-/

set_option autoImplicit false

namespace LogProblems

open LogProblems.Matcher

/-! ## What a scan emits -/

namespace Scan

/-- What a scan reports at each of some lines, and last at the end of the input. -/
def emitted : Scan → List String → Except ScanFault (List (List Emission))
  | scan, [] => .ok [scan.pending]
  | scan, line :: rest =>
    match advanceAll line scan.lines scan.context scan.matchers scan.states with
    | .error fault => .error (.missingStep fault)
    | .ok (states, emissions) =>
      (emitted { scan with
          states, listing := scan.listing.file emissions, lines := scan.lines + 1 } rest).map
        (emissions :: ·)

/-- Scans lines to the end of the input. -/
def outcome (scan : Scan) (lines : List String) : Except ScanFault ScanOutput :=
  (scan.feedAll lines).map (·.finish)

/-- Hands a line to matchers in order: the state of each and what it completes. -/
def advanceEach (line : String) (number : Nat) (context : Context) :
    List Compiled → List State → Except MissingStep (List (State × List Emission))
  | m :: ms, s :: ss =>
    match s.advance m line number context with
    | .error fault => .error fault
    | .ok (s, completed) =>
      (advanceEach line number context ms ss).map ((s, completed.toList) :: ·)
  | _, _ => .ok []

/-- What each matcher of a scan reports at each of some lines, and last at the end of
the input. -/
def shares : Scan → List String → Except ScanFault (List (List (List Emission)))
  | scan, [] =>
    .ok [List.zipWith (fun s m => (s.flush m).2.toList) scan.states scan.matchers]
  | scan, line :: rest =>
    match advanceEach line scan.lines scan.context scan.matchers scan.states with
    | .error fault => .error (.missingStep fault)
    | .ok results =>
      (shares { scan with
          states := results.map (·.1)
          listing := scan.listing.file (results.map (·.2)).flatten
          lines := scan.lines + 1 } rest).map
        (results.map (·.2) :: ·)

/-- A line, with the share of each matcher kept apart. -/
theorem advanceAll_eq_map (line : String) (number : Nat) (context : Context) (ms : List Compiled)
    (ss : List State) :
    advanceAll line number context ms ss
      = (advanceEach line number context ms ss).map fun results =>
          (results.map (·.1), (results.map (·.2)).flatten) := by
  induction ms generalizing ss with
  | nil => rfl
  | cons m ms ih =>
    cases ss with
    | nil => rfl
    | cons s ss =>
      simp only [advanceAll, advanceEach, ih]
      cases s.advance m line number context with
      | error fault => rfl
      | ok r =>
        cases advanceEach line number context ms ss with
        | error fault => rfl
        | ok results => rfl

/-- What a scan emits is what its matchers report, in their order. -/
theorem emitted_eq_shares (lines : List String) (scan : Scan) :
    scan.emitted lines = (scan.shares lines).map (·.map List.flatten) := by
  induction lines generalizing scan with
  | nil => rfl
  | cons line rest ih =>
    simp only [emitted, shares, advanceAll_eq_map]
    cases advanceEach line scan.lines scan.context scan.matchers scan.states with
    | error fault => rfl
    | ok results =>
      simp only [Except.map, ih]
      cases shares _ rest with
      | error fault => rfl
      | ok later => rfl

theorem outcome_of_emitted (lines : List String) {scan : Scan} {rounds : List (List Emission)}
    (h : scan.emitted lines = .ok rounds) :
    scan.outcome lines = .ok ⟨scan.listing.file rounds.flatten, scan.lines + lines.length⟩ := by
  induction lines generalizing scan rounds with
  | nil =>
    cases h
    simp [outcome, feedAll, finish, Except.map]
  | cons line rest ih =>
    rw [emitted] at h
    cases hadvance : advanceAll line scan.lines scan.context scan.matchers scan.states with
    | error fault =>
      rw [hadvance] at h
      cases h
    | ok r =>
      obtain ⟨states, emissions⟩ := r
      rw [hadvance] at h
      have hfeed : scan.feed line = .ok { scan with
          states, listing := scan.listing.file emissions, lines := scan.lines + 1 } := by
        simp only [feed, hadvance]
      cases hlater : emitted { scan with
          states, listing := scan.listing.file emissions, lines := scan.lines + 1 } rest with
      | error fault =>
        simp only [hlater] at h
        cases h
      | ok later =>
        simp only [hlater] at h
        cases h
        have hrest := ih hlater
        rw [outcome] at hrest ⊢
        rw [feedAll, hfeed]
        rw [hrest, List.flatten_cons, Listing.file_append, List.length_cons, Nat.add_assoc,
          Nat.add_comm 1]

end Scan

/-! ## Alone and side by side -/

/-- What a matcher reports from a state on: at each of the lines from the given number
on, and last at the end of the input. -/
def Matcher.State.rounds (m : Compiled) (context : Context) :
    State → Nat → List String → List (List Emission)
  | s, _, [] => [(s.flush m).2.toList]
  | s, number, line :: rest =>
    (s.turn m line number context).2.toList
      :: (s.turn m line number context).1.rounds m context (number + 1) rest

theorem Matcher.State.rounds_length (m : Compiled) (context : Context) (lines : List String)
    (s : State) (number : Nat) : (s.rounds m context number lines).length = lines.length + 1 := by
  induction lines generalizing s number with
  | nil => rfl
  | cons line rest ih => rw [rounds, List.length_cons, ih, List.length_cons]

namespace Scan

theorem advanceEach_eq {ms : List Compiled} {ss : List State}
    (h : List.Forall₂ (fun m s => m.Lawful ∧ s.Sound m) ms ss) (line : String) (number : Nat)
    (context : Context) :
    advanceEach line number context ms ss
      = .ok (List.zipWith (fun m s =>
          ((s.turn m line number context).1, (s.turn m line number context).2.toList)) ms ss) := by
  induction h with
  | nil => rfl
  | cons hhead _ ih =>
    simp only [advanceEach, State.advance_eq_turn hhead.2, ih, List.zipWith_cons_cons]
    rfl

theorem zipWith_zipWith_right (f : Compiled → State → List Emission)
    (g : Compiled → State → State) (ms : List Compiled) (ss : List State) :
    List.zipWith f ms (List.zipWith g ms ss) = List.zipWith (fun m s => f m (g m s)) ms ss := by
  induction ms generalizing ss with
  | nil => rfl
  | cons m ms ih =>
    cases ss with
    | nil => rfl
    | cons s ss => simp only [List.zipWith_cons_cons, ih]

/-- The share of each matcher in a scan is what it reports alone. -/
theorem shares_eq (lines : List String) {scan : Scan} (h : scan.Sound) :
    scan.shares lines = .ok ((List.range (lines.length + 1)).map fun i =>
      List.zipWith (fun m s => (s.rounds m scan.context scan.lines lines).getD i [])
        scan.matchers scan.states) := by
  induction lines generalizing scan with
  | nil =>
    rw [shares, List.zipWith_comm]
    rfl
  | cons line rest ih =>
    have hnext : ∀ listing, ({ scan with
        states := List.zipWith (fun m s => (s.turn m line scan.lines scan.context).1)
          scan.matchers scan.states
        listing
        lines := scan.lines + 1 } : Scan).Sound :=
      fun _ => forall₂_turn h line scan.lines scan.context
    simp only [shares, advanceEach_eq h, List.map_zipWith]
    rw [ih (hnext _)]
    simp only [zipWith_zipWith_right, Except.map]
    rw [List.length_cons, List.range_succ_eq_map (n := rest.length + 1), List.map_cons,
      List.map_map]
    rfl

/-- What matchers report alone, lined up round by round. -/
def lineUp (ms : List Compiled) (context : Context) (lines : List String) :
    List (List (List Emission)) :=
  (List.range (lines.length + 1)).map fun i =>
    ms.map fun m => (State.blank.rounds m context 0 lines).getD i []

variable {ms : List Compiled}

theorem shares_start (h : ∀ m ∈ ms, m.Lawful) (context : Context) (lines : List String) :
    (start ms context).shares lines = .ok (lineUp ms context lines) := by
  rw [shares_eq lines (start_sound h context)]
  simp only [start, List.zipWith_map_right, List.zipWith_self, lineUp]

theorem emitted_start (h : ∀ m ∈ ms, m.Lawful) (context : Context) (lines : List String) :
    (start ms context).emitted lines = .ok ((lineUp ms context lines).map List.flatten) := by
  rw [emitted_eq_shares, shares_start h]
  rfl

theorem outcome_start (h : ∀ m ∈ ms, m.Lawful) (context : Context) (lines : List String) :
    (start ms context).outcome lines
      = .ok ⟨.ofEmissions (lineUp ms context lines).flatten.flatten, lines.length⟩ := by
  rw [outcome_of_emitted lines (emitted_start h context lines), List.flatten_flatten]
  simp only [start, Nat.zero_add]
  rfl

theorem map_getD_range {rounds : List (List Emission)} {n : Nat} (h : rounds.length = n) :
    ((List.range n).map fun i => rounds.getD i []) = rounds := by
  refine List.ext_getElem (by simp [h]) fun i hi hi' => ?_
  simp [hi']

theorem map_getD_lineUp {k : Nat} {m : Compiled} (hk : ms[k]? = some m) (context : Context)
    (lines : List String) :
    ((lineUp ms context lines).map fun round => round.getD k [])
      = State.blank.rounds m context 0 lines := by
  have hround : ∀ i, (ms.map fun m => (State.blank.rounds m context 0 lines).getD i []).getD k []
      = (State.blank.rounds m context 0 lines).getD i [] := by
    intro i
    rw [List.getD_eq_getElem?_getD, List.getElem?_map, hk, Option.map_some, Option.getD_some]
  rw [lineUp, List.map_map]
  refine Eq.trans (List.map_congr_left fun i _ => hround i) ?_
  exact map_getD_range (State.rounds_length m context lines .blank 0)

theorem map_flatten_lineUp_singleton (m : Compiled) (context : Context) (lines : List String) :
    (lineUp [m] context lines).map List.flatten = State.blank.rounds m context 0 lines := by
  rw [lineUp, List.map_map]
  refine Eq.trans (List.map_congr_left fun i _ => ?_)
    (map_getD_range (State.rounds_length m context lines .blank 0))
  exact List.append_nil _

theorem outcome_start_singleton {m : Compiled} (hm : m.Lawful) (context : Context)
    (lines : List String) :
    (start [m] context).outcome lines
      = .ok ⟨.ofEmissions (State.blank.rounds m context 0 lines).flatten, lines.length⟩ := by
  rw [outcome_start (List.forall_mem_singleton.2 hm), List.flatten_flatten,
    map_flatten_lineUp_singleton]

/-- Reports in the order of the lines are, moved around, reports in the order of the
matchers. -/
theorem flatMap_comm_perm {α β γ : Type} (f : α → β → List γ) (as : List α) (bs : List β) :
    (as.flatMap fun a => bs.flatMap fun b => f a b).Perm
      (bs.flatMap fun b => as.flatMap fun a => f a b) := by
  induction bs with
  | nil => simp
  | cons b bs ih =>
    simp only [List.flatMap_cons]
    exact (List.flatMap_append_perm as (fun a => f a b) _).symm.trans (ih.append_left _)

/-- What is emitted in all rounds is what each matcher emits alone, moved around. -/
theorem flatten_lineUp_perm (ms : List Compiled) (context : Context) (lines : List String) :
    (lineUp ms context lines).flatten.flatten.Perm
      (ms.flatMap fun m => (State.blank.rounds m context 0 lines).flatten) := by
  have halone : ∀ m ∈ ms,
      ((List.range (lines.length + 1)).flatMap fun i =>
        (State.blank.rounds m context 0 lines).getD i [])
        = (State.blank.rounds m context 0 lines).flatten := by
    intro m _
    rw [List.flatMap_def, map_getD_range (State.rounds_length m context lines .blank 0)]
  rw [List.flatten_flatten, lineUp, List.map_map, ← List.flatMap_def, ← List.flatMap_congr halone]
  exact flatMap_comm_perm _ _ _

end Scan

/-- **Matchers do not disturb each other.**

At each line and at the end of the input, each of any compiled matchers contributes to
a scan exactly what it emits in a scan of its own, and the scan emits the contributions
in the order of the matchers.  So the output groups the merged sequence by path; what
the matcher at place `k` contributes to it is its own scan; the records add up; and
another order of the matchers gives the same records, in another order perhaps. -/
theorem scan_interleaves (ms : List Compiled)
    (hms : ∀ m ∈ ms, ∃ d place, compile d place = .ok m) (context : Context)
    (lines : List String) :
    ∃ (solo : Compiled → List (List Emission)) (alone : Compiled → ScanOutput)
      (rounds : List (List (List Emission))) (output : ScanOutput),
      (∀ m ∈ ms, (Scan.start [m] context).emitted lines = .ok (solo m) ∧
        (Scan.start [m] context).outcome lines = .ok (alone m) ∧
        (alone m).listing.files.toList = grouped (solo m).flatten) ∧
      (Scan.start ms context).shares lines = .ok rounds ∧
      (Scan.start ms context).emitted lines = .ok (rounds.map List.flatten) ∧
      rounds = ((List.range (lines.length + 1)).map fun i =>
        ms.map fun m => (solo m).getD i []) ∧
      (∀ k m, ms[k]? = some m → rounds.map (fun round => round.getD k []) = solo m) ∧
      (Scan.start ms context).outcome lines = .ok output ∧
      output.listing.files.toList = grouped rounds.flatten.flatten ∧
      output.listing.total = (ms.map fun m => (alone m).listing.total).sum ∧
      output.linesScanned = lines.length ∧
      ∀ ms' : List Compiled, ms'.Perm ms →
        ∃ output', (Scan.start ms' context).outcome lines = .ok output' ∧
          output'.listing.emissions.Perm output.listing.emissions ∧
          output'.linesScanned = output.linesScanned := by
  have hlawful : ∀ m ∈ ms, m.Lawful := by
    intro m hm
    obtain ⟨_, _, hcompile⟩ := hms m hm
    exact compile_lawful hcompile
  refine ⟨fun m => State.blank.rounds m context 0 lines,
    fun m => ⟨.ofEmissions (State.blank.rounds m context 0 lines).flatten, lines.length⟩,
    Scan.lineUp ms context lines,
    ⟨.ofEmissions (Scan.lineUp ms context lines).flatten.flatten, lines.length⟩,
    ?_, Scan.shares_start hlawful context lines, Scan.emitted_start hlawful context lines, rfl,
    fun k m hk => Scan.map_getD_lineUp hk context lines,
    Scan.outcome_start hlawful context lines, Listing.ofEmissions_files _, ?_, rfl, ?_⟩
  · intro m hm
    refine ⟨?_, Scan.outcome_start_singleton (hlawful m hm) context lines,
      Listing.ofEmissions_files _⟩
    rw [Scan.emitted_start (List.forall_mem_singleton.2 (hlawful m hm)),
      Scan.map_flatten_lineUp_singleton]
  · simp only [Listing.total_of_files (Listing.ofEmissions_files _)]
    rw [(Scan.flatten_lineUp_perm ms context lines).length_eq, List.length_flatMap]
  · intro ms' hperm
    have hlawful' : ∀ m ∈ ms', m.Lawful := fun m hm => hlawful m (hperm.mem_iff.1 hm)
    refine ⟨_, Scan.outcome_start hlawful' context lines, ?_, rfl⟩
    have hmoved := (Scan.flatten_lineUp_perm ms' context lines).trans
      ((hperm.flatMap_right _).trans (Scan.flatten_lineUp_perm ms context lines).symm)
    exact (Listing.emissions_of_files (Listing.ofEmissions_files _)).trans
      (hmoved.trans (Listing.emissions_of_files (Listing.ofEmissions_files _)).symm)

/-- Two matchers on two lines: the first reports both lines, the second the first line
only, and its record stands between the other two. -/
theorem scan_interleaves_pair :
    ∃ m m' output, compile { pattern := some (.one { regexp := some "^(.*):", file := some 1 }) } 0
          = .ok m ∧
      compile { pattern := some (.one { regexp := some "^a(.*)$", message := some 1 }) } 1
          = .ok m' ∧
      (Scan.start [m, m'] {}).outcome ["a: x", "b: y"] = .ok output ∧
      output.linesScanned = 2 ∧
      ∃ rounds, (Scan.start [m, m'] {}).emitted ["a: x", "b: y"] = .ok rounds ∧
        rounds.map (·.map (·.path)) = [["a", noFile], ["b"], []] ∧
        output.listing.files.toList = grouped rounds.flatten := by
  have hrun : (compile
      { pattern := some (.one { regexp := some "^(.*):", file := some 1 }) } 0).toOption.map
      (fun m => (compile
        { pattern := some (.one { regexp := some "^a(.*)$", message := some 1 }) } 1).toOption.map
      fun m' => ((Scan.start [m, m'] {}).emitted ["a: x", "b: y"]).toOption.map
        fun rounds => rounds.map (·.map (·.path)))
      = some (some (some [["a", noFile], ["b"], []])) := by
    decide +kernel
  obtain ⟨m, hfirst, hrun⟩ := exists_of_toOption_map hrun
  obtain ⟨m', hsecond, hpaths⟩ := exists_of_toOption_map hrun
  have hms : ∀ x ∈ [m, m'], ∃ d place, compile d place = .ok x := by
    intro x hx
    rcases List.mem_pair.1 hx with rfl | rfl
    · exact ⟨_, _, hfirst⟩
    · exact ⟨_, _, hsecond⟩
  obtain ⟨_, _, rounds, output, _, _, hemitted, _, _, houtcome, hfiles, _, hlines, _⟩ :=
    scan_interleaves [m, m'] hms {} ["a: x", "b: y"]
  refine ⟨m, m', output, hfirst, hsecond, houtcome, hlines, _, hemitted, ?_, ?_⟩
  · simpa [Except.toOption, hemitted] using hpaths
  · rw [hfiles, List.flatten_flatten]

end LogProblems
