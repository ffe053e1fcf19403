import LogProblems.Proofs.Scan.Progress

/-!
# Matchers that cannot be told apart

A scan does nothing with a matcher but hand lines to it and end its input.  So a matcher
can be replaced by one that answers alike, in every state that lines lead to, and each may
even have a context of its own: the scan does not change.

* `feed_recast` and `run_recast`: a line, and any lines, handed to other matchers;
* `scan_of_alike`: scans of any log.
-/

set_option autoImplicit false

namespace LogProblems

open LogProblems.Matcher

namespace Matcher

/-- The states that lines lead a matcher to. -/
inductive State.Reached (m : Compiled) (context : Context) : State → Prop
  | blank : Reached m context .blank
  | advance {s after : State} {completed : Option Emission} {line : String} {number : Nat} :
      Reached m context s → s.advance m line number context = .ok (after, completed) →
      Reached m context after

/-- Two matchers, each in its context, answer alike to every line and at the end of the
input. -/
structure Compiled.Alike (context context' : Context) (m m' : Compiled) : Prop where
  advance : ∀ {s : State}, s.Reached m context → ∀ line number,
    s.advance m' line number context' = s.advance m line number context
  flush : ∀ s : State, s.flush m' = s.flush m

theorem State.Reached.sound {m : Compiled} {context : Context} {s : State} (hm : m.Lawful)
    (h : s.Reached m context) : s.Sound m := by
  induction h with
  | blank => exact State.sound_blank hm
  | @advance s after completed line number _ hadvance ih =>
    have hturn := State.advance_eq_turn ih line number context
    obtain rfl : _ = after := congrArg Prod.fst (Except.ok.inj (hturn.symm.trans hadvance))
    exact State.turn_sound hm ih line number context

end Matcher

/-! ## Scans under way -/

namespace Scan

/-- The scan with other matchers in another context, each in the state that its is in. -/
def recast (scan : Scan) (ms : List Compiled) (context : Context) : Scan :=
  { scan with matchers := ms, context }

/-- The matchers can be replaced: the others answer alike wherever lines lead, and the scan
is where lines have led. -/
structure Recasts (scan : Scan) (ms' : List Compiled) (context' : Context) : Prop where
  alike : List.Forall₂ (Compiled.Alike scan.context context') scan.matchers ms'
  reached : List.Forall₂ (fun m s => s.Reached m scan.context) scan.matchers scan.states

variable {context context' : Context} {ms ms' : List Compiled} {ss : List State} {scan : Scan}

theorem start_recasts (h : List.Forall₂ (Compiled.Alike context context') ms ms') :
    (start ms context).Recasts ms' context' where
  alike := h
  reached := by
    show List.Forall₂ _ ms (ms.map fun _ => State.blank)
    rw [List.forall₂_map_right_iff, List.forall₂_same]
    intro m _
    exact .blank

/-- To replace the matchers before the first line is to start with the others. -/
theorem recast_start (h : List.Forall₂ (Compiled.Alike context context') ms ms') :
    (start ms context).recast ms' context' = start ms' context' := by
  simp only [start, recast, List.map_const', h.length_eq]

theorem advanceAll_of_alike (h : List.Forall₂ (Compiled.Alike context context') ms ms')
    (hreached : List.Forall₂ (fun m s => s.Reached m context) ms ss) (line : String)
    (number : Nat) :
    advanceAll line number context' ms' ss = advanceAll line number context ms ss := by
  induction h generalizing ss with
  | nil => rfl
  | cons hhead _ ih =>
    cases hreached with
    | cons hs hrest => simp only [advanceAll, hhead.advance hs, ih hrest]

theorem advanceAll_reached {after : List State} {emissions : List Emission} {line : String}
    {number : Nat} (hreached : List.Forall₂ (fun m s => s.Reached m context) ms ss)
    (h : advanceAll line number context ms ss = .ok (after, emissions)) :
    List.Forall₂ (fun m s => s.Reached m context) ms after := by
  induction hreached generalizing after emissions with
  | nil =>
    obtain ⟨rfl, -⟩ := Prod.mk.inj (Except.ok.inj h)
    exact .nil
  | @cons m s ms ss hs _ ih =>
    unfold advanceAll at h
    split at h
    · cases h
    · next next completed hadvance =>
      split at h
      · cases h
      · next rest later hrest =>
        obtain ⟨rfl, -⟩ := Prod.mk.inj (Except.ok.inj h)
        exact .cons (hs.advance hadvance) (ih hrest)

theorem feed_recast (h : scan.Recasts ms' context') (line : String) :
    (scan.recast ms' context').feed line = (scan.feed line).map (·.recast ms' context') ∧
      ∀ after, scan.feed line = .ok after → after.Recasts ms' context' := by
  have hsame : advanceAll line scan.lines context' ms' scan.states
      = advanceAll line scan.lines scan.context scan.matchers scan.states :=
    advanceAll_of_alike h.alike h.reached line scan.lines
  unfold feed
  simp only [recast, hsame]
  cases hadvance : advanceAll line scan.lines scan.context scan.matchers scan.states with
  | error fault =>
    refine ⟨rfl, fun after hafter => ?_⟩
    cases hafter
  | ok r =>
    obtain ⟨states, emissions⟩ := r
    refine ⟨rfl, fun after hafter => ?_⟩
    obtain rfl := Except.ok.inj hafter
    exact ⟨h.alike, advanceAll_reached h.reached hadvance⟩

theorem run_recast (cancelled : Nat → Bool) (lines : List String) :
    ∀ {scan : Scan}, scan.Recasts ms' context' →
      (scan.recast ms' context').run cancelled lines
          = (scan.run cancelled lines).map (·.recast ms' context') ∧
        ∀ after, scan.run cancelled lines = .ok after → after.Recasts ms' context' := by
  induction lines with
  | nil =>
    intro scan h
    refine ⟨rfl, fun after hafter => ?_⟩
    obtain rfl := Except.ok.inj hafter
    exact h
  | cons line rest ih =>
    intro scan h
    -- The states stay the same, and reached; only so do the answers to `rest` agree.
    obtain ⟨hfeed, hnext⟩ := feed_recast h line
    have hplace : (scan.recast ms' context').lines = scan.lines := rfl
    rw [run, run, hfeed, hplace]
    split
    · refine ⟨rfl, fun after hafter => ?_⟩
      cases hafter
    · cases hscan : scan.feed line with
      | error fault =>
        refine ⟨rfl, fun after hafter => ?_⟩
        cases hafter
      | ok next => exact ih (hnext next hscan)

theorem flush_of_alike (h : List.Forall₂ (Compiled.Alike context context') ms ms')
    (ss : List State) :
    List.zipWith (fun s m => (s.flush m).2.toList) ss ms'
      = List.zipWith (fun s m => (s.flush m).2.toList) ss ms := by
  induction h generalizing ss with
  | nil => rfl
  | cons hhead _ ih =>
    cases ss with
    | nil => rfl
    | cons s ss => simp only [List.zipWith_cons_cons, hhead.flush, ih]

theorem finish_recast (h : scan.Recasts ms' context') :
    (scan.recast ms' context').finish = scan.finish := by
  have hpending : (scan.recast ms' context').pending = scan.pending :=
    congrArg List.flatten (flush_of_alike h.alike scan.states)
  unfold finish
  rw [hpending]
  rfl

/-- A scan of lines, with other matchers. -/
theorem run_of_alike (h : List.Forall₂ (Compiled.Alike context context') ms ms')
    (cancelled : Nat → Bool) (lines : List String) :
    ((start ms' context').run cancelled lines).map (·.finish)
      = ((start ms context).run cancelled lines).map (·.finish) := by
  obtain ⟨hrun, hafter⟩ := run_recast cancelled lines (start_recasts h)
  rw [← recast_start h, hrun]
  cases hscan : (start ms context).run cancelled lines with
  | error fault => rfl
  | ok after => exact congrArg Except.ok (finish_recast (hafter after hscan))

theorem runToEnd_of_alike (h : List.Forall₂ (Compiled.Alike context context') ms ms')
    (cancelled : Nat → Bool) (lines : List String) :
    ((start ms' context').runToEnd cancelled lines).map (·.finish)
      = ((start ms context).runToEnd cancelled lines).map (·.finish) := by
  obtain ⟨hrun, hafter⟩ := run_recast cancelled lines (start_recasts h)
  rw [← recast_start h, runToEnd, runToEnd, hrun]
  cases hscan : (start ms context).run cancelled lines with
  | error fault => rfl
  | ok after =>
    show Except.map _ (if cancelled after.lines then _ else _)
      = Except.map _ (if cancelled after.lines then _ else _)
    split
    · rfl
    · exact congrArg Except.ok (finish_recast (hafter after hscan))

end Scan

/-- Lists that a function maps alike have elements that it maps alike. -/
theorem forall₂_of_map_eq {α β : Type} {f : α → β} {as as' : List α}
    (h : as'.map f = as.map f) : List.Forall₂ (fun a a' => f a' = f a) as as' := by
  have heq : List.Forall₂ (fun b b' => b' = b) (as.map f) (as'.map f) := by
    rw [h, List.forall₂_same]
    intro b _
    rfl
  rwa [List.forall₂_map_left_iff, List.forall₂_map_right_iff] at heq

/-! ## Scans of any log -/

/-- The ways to hand a log to a scanner. -/
inductive LogInput where
  | lines (lines : List String)
  | octets (octets : List UInt8)
  | file (files : FileTree) (path : String)

namespace LogInput

/-- The lines of the log, if it can be read. -/
def read : LogInput → Except IoFault (List String)
  | lines ls => .ok ls
  | octets os => .ok (linesOfOctets os)
  | file files path => (files.read path).map linesOfOctets

/-- How often a scan of the log asks whether it is cancelled. -/
def questions (count : Nat) : LogInput → Nat
  | lines _ => count
  | octets _ => count + 1
  | file _ _ => count + 1

/-- The context of a scan of the log: a file has a path of its own. -/
def contextIn (context : Context) : LogInput → Context
  | lines _ => context
  | octets _ => context
  | file _ path => { context with logPath := some path }

end LogInput

namespace Scanner

/-- Scans a log. -/
def scan (s : Scanner) (cancelled : Nat → Bool) : LogInput → Except ScanFault ScanOutput
  | .lines lines => s.scanLines cancelled lines
  | .octets octets => s.scanOctets cancelled octets
  | .file files path => s.scanFile cancelled files path

/-- A scan of a log, before its first line. -/
def beginOn (s : Scanner) (log : LogInput) : Scan :=
  .start s.matchers (log.contextIn s.context)

/-- Scanners whose matchers answer alike scan alike. -/
theorem scan_of_alike {s s' : Scanner} {log : LogInput}
    (h : List.Forall₂ (Compiled.Alike (log.contextIn s.context) (log.contextIn s'.context))
      s.matchers s'.matchers) (cancelled : Nat → Bool) :
    s'.scan cancelled log = s.scan cancelled log := by
  cases log with
  | lines lines => exact Scan.run_of_alike h cancelled lines
  | octets octets => exact Scan.runToEnd_of_alike h cancelled (linesOfOctets octets)
  | file files path =>
    cases hread : files.read path with
    | ok octets =>
      simp only [scan, scanFile, hread]
      exact Scan.runToEnd_of_alike h cancelled (linesOfOctets octets)
    | error fault =>
      simp only [scan, scanFile, hread]
      cases fault <;> rfl

end Scanner

end LogProblems
