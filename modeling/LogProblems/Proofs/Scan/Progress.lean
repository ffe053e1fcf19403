import LogProblems.Proofs.Matcher.Reachable
import LogProblems.Scan.Scanner

/-!
# Scans get on

A scan keeps every matcher in a state that it can reach, so that no line makes it
fail.  All that can stop a scan of lines is that it is cancelled.

* `advanceAll_eq`: a line moves each matcher as if it were alone;
* `feed_sound`: a line keeps a scan sound, and never fails;
* `run_eq_ok_or_cancelled`: a scan of lines ends or is cancelled;
* `reachable_states_sound`: the states of a compiled matcher, and the scans of any
  definitions.
-/

set_option autoImplicit false

namespace LogProblems

open LogProblems.Matcher

namespace Scan

/-- Every matcher is in a state that it can reach. -/
def Sound (scan : Scan) : Prop :=
  List.Forall₂ (fun m s => m.Lawful ∧ s.Sound m) scan.matchers scan.states

/-- A line moves each matcher as if it were alone; what they complete is listed in
their order. -/
theorem advanceAll_eq {ms : List Compiled} {ss : List State}
    (h : List.Forall₂ (fun m s => m.Lawful ∧ s.Sound m) ms ss) (line : String) (number : Nat)
    (context : Context) :
    advanceAll line number context ms ss
      = .ok (List.zipWith (fun m s => (s.turn m line number context).1) ms ss,
          (List.zipWith (fun m s => (s.turn m line number context).2.toList) ms ss).flatten) := by
  induction h with
  | nil => rfl
  | cons hhead _ ih =>
    simp only [advanceAll, State.advance_eq_turn hhead.2, ih, List.zipWith_cons_cons,
      List.flatten_cons]

theorem forall₂_turn {ms : List Compiled} {ss : List State}
    (h : List.Forall₂ (fun m s => m.Lawful ∧ s.Sound m) ms ss) (line : String) (number : Nat)
    (context : Context) :
    List.Forall₂ (fun m s => m.Lawful ∧ s.Sound m) ms
      (List.zipWith (fun m s => (s.turn m line number context).1) ms ss) := by
  induction h with
  | nil => exact .nil
  | cons hhead _ ih =>
    exact .cons ⟨hhead.1, State.turn_sound hhead.1 hhead.2 line number context⟩ ih

variable {scan : Scan}

theorem start_sound {ms : List Compiled} (h : ∀ m ∈ ms, m.Lawful) (context : Context) :
    (start ms context).Sound := by
  show List.Forall₂ _ ms (ms.map fun _ => State.blank)
  rw [List.forall₂_map_right_iff, List.forall₂_same]
  intro m hm
  exact ⟨h m hm, State.sound_blank (h m hm)⟩

/-- A line keeps a scan sound; it does not fail. -/
theorem feed_sound (h : scan.Sound) (line : String) :
    ∃ after, scan.feed line = .ok after ∧ after.Sound := by
  refine ⟨_, by simp only [feed, advanceAll_eq h]; rfl, ?_⟩
  exact forall₂_turn h line scan.lines scan.context

/-- Scans lines without asking whether the scan is cancelled. -/
def feedAll : Scan → List String → Except ScanFault Scan
  | scan, [] => .ok scan
  | scan, line :: rest =>
    match scan.feed line with
    | .error fault => .error fault
    | .ok scan => feedAll scan rest

theorem feedAll_sound (lines : List String) :
    ∀ {scan : Scan}, scan.Sound → ∃ after, scan.feedAll lines = .ok after ∧ after.Sound := by
  induction lines with
  | nil => intro scan h; exact ⟨scan, rfl, h⟩
  | cons line rest ih =>
    intro scan h
    obtain ⟨next, hfeed, hnext⟩ := feed_sound h line
    obtain ⟨after, hrest, hafter⟩ := ih hnext
    exact ⟨after, by simp only [feedAll, hfeed, hrest], hafter⟩

theorem run_eq_ok_or_cancelled (cancelled : Nat → Bool) (lines : List String) :
    ∀ {scan : Scan}, scan.Sound →
      (∃ after, scan.run cancelled lines = .ok after)
        ∨ ∃ k, cancelled k = true ∧ scan.run cancelled lines = .error (.cancelled k) := by
  induction lines with
  | nil => intro scan _; exact Or.inl ⟨scan, rfl⟩
  | cons line rest ih =>
    intro scan h
    cases hcancelled : cancelled scan.lines with
    | true => exact Or.inr ⟨scan.lines, hcancelled, by simp [run, hcancelled]⟩
    | false =>
      obtain ⟨next, hfeed, hnext⟩ := feed_sound h line
      have hrun : scan.run cancelled (line :: rest) = next.run cancelled rest := by
        simp [run, hcancelled, hfeed]
      rw [hrun]
      exact ih hnext

end Scan

namespace Scanner

theorem exists_of_mem_verdicts {strict : Bool} {v : Verdict} :
    ∀ {place : Nat} {ds : List Definition}, v ∈ verdicts strict place ds →
      ∃ d ∈ ds, ∃ place, v = Verdict.of strict place d := by
  intro place ds
  induction ds generalizing place with
  | nil => intro h; cases h
  | cons d rest ih =>
    intro h
    rcases List.mem_cons.1 h with rfl | h
    · exact ⟨d, List.mem_cons_self, place, rfl⟩
    · obtain ⟨d', hd', hv⟩ := ih h
      exact ⟨d', List.mem_cons_of_mem _ hd', hv⟩

theorem exists_compile_of_mem_matchers {ds : List Definition} {options : ScanOptions}
    {m : Compiled} (h : m ∈ (ofDefinitions ds options).matchers) :
    ∃ d ∈ ds, ∃ place, compile d place = .ok m := by
  obtain ⟨v, hv, hm⟩ := List.mem_filterMap.1 h
  obtain ⟨d, hd, place, rfl⟩ := exists_of_mem_verdicts hv
  refine ⟨d, hd, place, ?_⟩
  unfold Verdict.of at hm
  split at hm
  · cases hm
  · next m' hcompile =>
    have hmm : m' = m := by
      split at hm
      · split at hm
        · cases hm
        · exact Option.some.inj hm
      · exact Option.some.inj hm
    rw [hcompile, hmm]

theorem lawful_of_mem_matchers {ds : List Definition} {options : ScanOptions} :
    ∀ m ∈ (ofDefinitions ds options).matchers, m.Lawful := by
  intro m hm
  obtain ⟨_, _, _, hcompile⟩ := exists_compile_of_mem_matchers hm
  exact compile_lawful hcompile

theorem begin_sound (ds : List Definition) (options : ScanOptions) :
    (ofDefinitions ds options).begin.Sound :=
  Scan.start_sound lawful_of_mem_matchers _

end Scanner

/-- **The states that a compiled matcher reaches, and the scans that it takes part in.**

Any lines, with any numbers and in any contexts, any flushes and any resets lead from
the blank state to a state whose cursor is within the steps, and which is blank exactly
when the cursor is at the first step.  Past it, a problem that is not open any more was
reported by a last step that repeats and extracts; a lone step never gets past it.
Flushing leaves nothing to flush.  Outside the log, finishing the range loses nothing.
So no line fails, and a scan of lines ends unless it is cancelled. -/
theorem reachable_states_sound :
    (∀ (d : Definition) (place : Nat) (m : Compiled), compile d place = .ok m →
      ∀ operations : List State.Operation, ∃ s, State.blank.after m operations = .ok s ∧
        s.cursor < m.steps.length ∧
        (s.cursor = 0 ↔ s = .blank) ∧
        (0 < s.cursor → s.isOpen = false → s.cursor + 1 = m.steps.length ∧
          ∃ last, m.steps[s.cursor]? = some last ∧ last.loops = true
            ∧ last.isContinuation = false) ∧
        (m.steps.length = 1 → s = .blank) ∧
        ((s.flush m).1 = .blank ∧ ((s.flush m).1.flush m).2 = none) ∧
        (m.pathMode ≠ .logFile → s.range.InBounds ∧ .ofRange s.range.toRange = s.range) ∧
        ∀ line number context, ∃ r, s.advance m line number context = .ok r) ∧
    ∀ (definitions : List Definition) (options : ScanOptions) (lines : List String),
      (∃ scan, (Scanner.ofDefinitions definitions options).begin.feedAll lines = .ok scan) ∧
      ∀ cancelled : Nat → Bool,
        (∃ output, (Scanner.ofDefinitions definitions options).scanLines cancelled lines
          = .ok output) ∨
        ∃ k, cancelled k = true ∧
          (Scanner.ofDefinitions definitions options).scanLines cancelled lines
            = .error (.cancelled k) := by
  constructor
  · intro d place m hcompile operations
    have hm := compile_lawful hcompile
    obtain ⟨s, hafter, hs⟩ := State.after_sound hm operations (State.sound_blank hm)
    have hblank : s.cursor = 0 ↔ s = .blank :=
      ⟨hs.eq_blank_of_cursor, fun h => by rw [h, State.blank_cursor]⟩
    refine ⟨s, hafter, hs.cursor_lt, hblank, hs.repeats_of_reported, ?_, ⟨rfl, rfl⟩, ?_, ?_⟩
    · intro hone
      have := hs.cursor_lt
      exact hblank.1 (by omega)
    · intro hmode
      have hbounds := hs.inBounds hmode
      exact ⟨hbounds, by rw [WorkingRange.ofRange_toRange, hbounds.clamp_eq]⟩
    · exact State.advance_of_step hs.cursor_lt
  · intro definitions options lines
    have hbegin := Scanner.begin_sound definitions options
    constructor
    · obtain ⟨scan, hfeed, _⟩ := Scan.feedAll_sound lines hbegin
      exact ⟨scan, hfeed⟩
    · intro cancelled
      unfold Scanner.scanLines
      rcases Scan.run_eq_ok_or_cancelled cancelled lines hbegin with
        ⟨after, hrun⟩ | ⟨k, hk, hrun⟩
      · exact Or.inl ⟨after.finish, by rw [hrun]; rfl⟩
      · exact Or.inr ⟨k, hk, by rw [hrun]; rfl⟩

/-- A heading followed by a list of problems: each item is reported at once, and the
cursor stays at the item. -/
theorem reachable_states_sound_list :
    ∃ m, compile { pattern := some (.many
        [{ regexp := some "^Errors:$" },
          { regexp := some "^  (.*): (.*)$", file := some 1, message := some 2,
            loop := some true }]) } 0 = .ok m ∧
      ∃ s, State.blank.after m [.advance "Errors:" 0 {}, .advance "  a.c: one" 1 {}] = .ok s ∧
        s.cursor = 1 ∧ s.isOpen = false ∧ m.steps.length = 2 ∧ s ≠ .blank := by
  have hrun : (compile { pattern := some (.many
      [{ regexp := some "^Errors:$" },
        { regexp := some "^  (.*): (.*)$", file := some 1, message := some 2,
          loop := some true }]) } 0).toOption.map (fun m => (State.blank.after m
        [.advance "Errors:" 0 {}, .advance "  a.c: one" 1 {}]).toOption.map
          fun s => (s.cursor, s.isOpen)) = some (some (1, false)) := by decide +kernel
  obtain ⟨m, hcompile, hstate⟩ := exists_of_toOption_map hrun
  obtain ⟨s, hafter, _, hblank, hreported, _⟩ :=
    reachable_states_sound.1 _ _ m hcompile [.advance "Errors:" 0 {}, .advance "  a.c: one" 1 {}]
  simp only [hafter, Except.toOption, Option.map_some, Option.some.injEq,
    Prod.mk.injEq] at hstate
  obtain ⟨hcursor, hopen⟩ := hstate
  have hlast := (hreported (by omega) hopen).1
  refine ⟨m, hcompile, s, hafter, hcursor, hopen, by omega, ?_⟩
  intro heq
  have := hblank.2 heq
  omega

end LogProblems
