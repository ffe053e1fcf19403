import LogProblems.Proofs.Matcher.Advance

/-!
# The states a matcher can reach

Whatever lines a matcher is given, and however often it is flushed or reset in
between, its cursor stays within its steps and at the first of them only when
nothing was gathered.  A problem that was gathered but is not open any more has been
reported by a last step that repeats.  Outside the log, the ends of the range under
construction need no clamping.

* `resolveLocation_inBounds`: locating a problem keeps the range within bounds;
* `advance_sound`: one line keeps what is said above, and never fails;
* `after_sound`: so does every sequence of operations.
-/

set_option autoImplicit false

namespace LogProblems.Matcher

/-! ## Ranges within bounds -/

/-- Every end lies between zero and the end of a line. -/
structure WorkingRange.InBounds (r : WorkingRange) : Prop where
  startLine : 0 ≤ r.startLine ∧ r.startLine ≤ lineEnd
  startChar : 0 ≤ r.startChar ∧ r.startChar ≤ lineEnd
  endLine : 0 ≤ r.endLine ∧ r.endLine ≤ lineEnd
  endChar : 0 ≤ r.endChar ∧ r.endChar ≤ lineEnd

theorem clampPosition_eq_self {v : Int} (h : 0 ≤ v ∧ v ≤ lineEnd) : clampPosition v = v := by
  simp only [clampPosition]
  omega

theorem clampPosition_mem (v : Int) : 0 ≤ clampPosition v ∧ clampPosition v ≤ lineEnd :=
  ⟨clampPosition_nonneg v, clampPosition_le v⟩

namespace WorkingRange

/-- A finished range, as one under construction. -/
def ofRange (r : Range) : WorkingRange :=
  { startLine := r.startLine, startChar := r.startChar, endLine := r.endLine, endChar := r.endChar }

theorem inBounds_default : ({} : WorkingRange).InBounds :=
  ⟨by decide, by decide, by decide, by decide⟩

theorem inBounds_clamp (r : WorkingRange) : r.clamp.InBounds :=
  ⟨clampPosition_mem _, clampPosition_mem _, clampPosition_mem _, clampPosition_mem _⟩

theorem InBounds.clamp_eq {r : WorkingRange} (h : r.InBounds) : r.clamp = r := by
  simp only [clamp, clampPosition_eq_self h.startLine, clampPosition_eq_self h.startChar,
    clampPosition_eq_self h.endLine, clampPosition_eq_self h.endChar]

/-- Finishing a range clamps it, and does nothing else. -/
theorem ofRange_toRange (r : WorkingRange) : ofRange r.toRange = r.clamp := by
  simp only [ofRange, toRange, clamp, Int.toNat_of_nonneg (clampPosition_nonneg _)]

end WorkingRange

theorem resolveLocation_inBounds {r : WorkingRange} (h : r.InBounds) (capture : LocationCapture)
    (groups : Groups) (indexing : Indexing) :
    (resolveLocation capture groups indexing r).InBounds := by
  cases capture with
  | wholeFile => exact h
  | combined group => exact WorkingRange.inBounds_clamp _
  | discrete d => exact WorkingRange.inBounds_clamp _

namespace State

/-- Outside the log, gathering keeps the range within bounds. -/
theorem gather_inBounds {s : State} {m : Compiled} (hmode : m.pathMode ≠ .logFile)
    (h : s.range.InBounds) (current : Step) (groups : Groups) (number : Nat)
    (context : Context) : (s.gather m current groups number context).range.InBounds := by
  show (s.locate m current groups number context).range.InBounds
  simp only [locate, hmode, if_false]
  split
  · exact h
  · exact resolveLocation_inBounds h _ _ _

/-! ## Sound states -/

/-- What holds of every state that the matcher can reach. -/
structure Sound (m : Compiled) (s : State) : Prop where
  cursor_lt : s.cursor < m.steps.length
  eq_blank_of_cursor : s.cursor = 0 → s = blank
  /-- Only a last step that repeats and extracts leaves a reported problem behind. -/
  repeats_of_reported : 0 < s.cursor → s.isOpen = false →
    s.cursor + 1 = m.steps.length ∧ ∃ last, m.steps[s.cursor]? = some last
      ∧ last.loops = true ∧ last.isContinuation = false
  inBounds : m.pathMode ≠ .logFile → s.range.InBounds

variable {s : State} {m : Compiled}

theorem Sound.exists_step (h : s.Sound m) : ∃ current, m.steps[s.cursor]? = some current :=
  ⟨_, List.getElem?_eq_getElem h.cursor_lt⟩

theorem sound_blank (hm : m.Lawful) : blank.Sound m where
  cursor_lt := hm.steps_pos
  eq_blank_of_cursor _ := rfl
  repeats_of_reported h := absurd h (Nat.lt_irrefl 0)
  inBounds _ := WorkingRange.inBounds_default

/-- A match keeps a state sound. -/
theorem step_sound (hm : m.Lawful) (h : s.Sound m) {current : Step}
    (hstep : m.steps[s.cursor]? = some current) (groups : Groups) (number : Nat)
    (context : Context) : (s.step m current groups number context).1.Sound m := by
  have hmem : current ∈ m.steps := List.mem_of_getElem? hstep
  have hbounds : m.pathMode ≠ .logFile →
      (s.gather m current groups number context).range.InBounds :=
    fun hmode => gather_inBounds hmode (h.inBounds hmode) current groups number context
  by_cases honward : s.cursor + 1 < m.steps.length
  · rw [step_onward honward]
    refine ⟨honward, ?_, ?_, hbounds⟩
    · intro hzero
      exact absurd hzero (Nat.succ_ne_zero _)
    · intro _ hclosed
      cases hclosed
  · have hlast : s.cursor + 1 = m.steps.length := by
      have := h.cursor_lt
      omega
    cases hloops : current.loops with
    | false =>
      rw [step_complete hlast (hm.isContinuation_eq_false hmem hloops) hloops]
      exact sound_blank hm
    | true =>
      have hmore := hm.two_le_of_loops current hmem hloops
      rw [step_repeat hlast hmore hloops]
      refine ⟨by simpa using h.cursor_lt, ?_, ?_, hbounds⟩
      · intro hzero
        simp only [gather_cursor] at hzero
        omega
      · intro _ hclosed
        exact ⟨by simpa using hlast, current, by simpa using hstep, hloops, hclosed⟩

/-- A line keeps a state sound; the internal error does not come up. -/
theorem advance_sound (hm : m.Lawful) (h : s.Sound m) (line : String) (number : Nat)
    (context : Context) :
    ∃ after completed, s.advance m line number context = .ok (after, completed)
      ∧ after.Sound m := by
  obtain ⟨current, hstep⟩ := h.exists_step
  cases hfind : current.pattern.find line with
  | none => exact ⟨_, _, advance_of_unmatched hstep hfind, sound_blank hm⟩
  | some groups =>
    exact ⟨_, _, advance_of_match hstep hfind, step_sound hm h hstep groups number context⟩

/-- What a line does to a matcher whose cursor is within its steps. -/
def turn (s : State) (m : Compiled) (line : String) (number : Nat) (context : Context) :
    State × Option Emission :=
  match s.advance m line number context with
  | .error _ => (s, none)
  | .ok r => r

theorem advance_eq_turn (h : s.Sound m) (line : String) (number : Nat) (context : Context) :
    s.advance m line number context = .ok (s.turn m line number context) := by
  obtain ⟨r, hr⟩ := advance_of_step h.cursor_lt line number context
  rw [turn, hr]

theorem turn_sound (hm : m.Lawful) (h : s.Sound m) (line : String) (number : Nat)
    (context : Context) : (s.turn m line number context).1.Sound m := by
  obtain ⟨after, completed, hadvance, hafter⟩ := advance_sound hm h line number context
  rw [turn, hadvance]
  exact hafter

/-! ## Sequences of operations -/

/-- What can be done with a matcher under way. -/
inductive Operation where
  | advance (line : String) (number : Nat) (context : Context)
  | flush
  | reset

/-- Does one operation. -/
def perform (s : State) (m : Compiled) : Operation → Except MissingStep (State × Option Emission)
  | .advance line number context => s.advance m line number context
  | .flush => .ok (s.flush m)
  | .reset => .ok (s.reset, none)

/-- The state after operations, one after the other. -/
def after (m : Compiled) : State → List Operation → Except MissingStep State
  | s, [] => .ok s
  | s, operation :: rest =>
    match s.perform m operation with
    | .error fault => .error fault
    | .ok (s, _) => after m s rest

/-- One operation keeps a state sound. -/
theorem perform_sound (hm : m.Lawful) (h : s.Sound m) (operation : Operation) :
    ∃ next completed, s.perform m operation = .ok (next, completed) ∧ next.Sound m := by
  cases operation with
  | advance line number context => exact advance_sound hm h line number context
  | flush => exact ⟨_, _, rfl, sound_blank hm⟩
  | reset => exact ⟨_, _, rfl, sound_blank hm⟩

/-- Every sequence of operations keeps a state sound. -/
theorem after_sound (hm : m.Lawful) :
    ∀ (operations : List Operation) {s : State}, s.Sound m →
      ∃ next, s.after m operations = .ok next ∧ next.Sound m := by
  intro operations
  induction operations with
  | nil => intro s h; exact ⟨s, rfl, h⟩
  | cons operation rest ih =>
    intro s h
    obtain ⟨next, completed, hperform, hnext⟩ := perform_sound hm h operation
    obtain ⟨final, hafter, hfinal⟩ := ih hnext
    exact ⟨final, by simp only [after, hperform, hafter], hfinal⟩

end State

end LogProblems.Matcher
