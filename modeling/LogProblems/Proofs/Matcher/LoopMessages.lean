import Mathlib.Algebra.GroupWithZero.Nat
import LogProblems.Proofs.Matcher.Report

/-!
# Messages of a last step that repeats

A last step that repeats and extracts reports a problem at each of its lines, and the
matcher goes on from the problem that it has just reported.  What the line before put
into the message is still there.  So the message of the second report has the text of
the first line too, and each report tells what all lines of the loop have told so far.

* `reports_of_loop`: the reports of a block, one for each line of the loop;
* `text_insert_eq_iff`: when fragments in the middle of a message do not show;
* `loop_messages_iff`: when a report has no more in its message than the lines before
  the loop and its own line put there;
* `loop_messages_carry`: a report that has more.
-/

set_option autoImplicit false

namespace LogProblems.Matcher

/-! ## Fragments that do not show -/

/-- The length of a message, when each fragment is counted with the space after it. -/
theorem length_intercalate_space {texts : List String} (hne : texts ≠ []) :
    (" ".intercalate texts).length + 1 = (texts.map fun text => text.length + 1).sum := by
  induction texts with
  | nil => exact absurd rfl hne
  | cons text rest ih =>
    cases rest with
    | nil => simp
    | cons next later =>
      have hrest := ih (by simp)
      rw [String.intercalate_cons_cons, String.length_append, String.length_append,
        List.map_cons, List.sum_cons, ← hrest]
      have hspace : (" " : String).length = 1 := rfl
      omega

/-- Fragments in the middle of a message show, unless they make up the message that
stands for none. -/
theorem Message.text_insert_eq_iff (before middle after : List String) :
    (⟨before ++ middle ++ after⟩ : Message).text = (⟨before ++ after⟩ : Message).text ↔
      middle = [] ∨ before ++ after = [] ∧ " ".intercalate middle = defaultText := by
  by_cases hmiddle : middle = []
  · simp [hmiddle]
  · by_cases hrest : before ++ after = []
    · obtain ⟨rfl, rfl⟩ := List.append_eq_nil_iff.1 hrest
      simp [text, hmiddle]
    · have hne : before ++ middle ++ after ≠ [] := by simp [hmiddle]
      have hpos : 0 < (middle.map fun text => text.length + 1).sum := by
        obtain ⟨first, later, rfl⟩ := List.exists_cons_of_ne_nil hmiddle
        rw [List.map_cons, List.sum_cons]
        omega
      simp only [hmiddle, hrest, false_and, or_false, iff_false]
      intro heq
      have hlong := length_intercalate_space hne
      have hshort := length_intercalate_space hrest
      simp only [text, List.isEmpty_iff, hne, hrest, if_false] at heq
      -- Equal texts have equal lengths, and the middle adds to the length.
      rw [heq, hshort] at hlong
      simp only [List.map_append, List.sum_append] at hlong
      omega

/-! ## Reports of a loop -/

namespace Compiled

variable {m : Compiled} {context : Context}

/-- The matches of the steps before the last one. -/
def headingOf (m : Compiled) (hits : List Hit) : List Hit :=
  hits.take (m.steps.length - 1)

/-- The matches of the last step. -/
def itemsOf (m : Compiled) (hits : List Hit) : List Hit :=
  hits.drop (m.steps.length - 1)

/-- The message that a report would have if the matches of the last step were kept
apart: the fragments before the loop, and those of its own line. -/
def ownMessage (m : Compiled) (hits : List Hit) : String :=
  messageOf (m.headingOf hits ++ (m.itemsOf hits).getLast?.toList)

/-- The matches of the last step at earlier lines of the loop. -/
def earlierItems (m : Compiled) (hits : List Hit) : List Hit :=
  (m.itemsOf hits).dropLast

theorem split_items (m : Compiled) (hits : List Hit) :
    m.headingOf hits ++ m.earlierItems hits ++ (m.itemsOf hits).getLast?.toList = hits := by
  have hitems : m.earlierItems hits ++ (m.itemsOf hits).getLast?.toList = m.itemsOf hits := by
    rw [earlierItems]
    cases hlast : (m.itemsOf hits).getLast? with
    | none => rw [List.getLast?_eq_none_iff.1 hlast]; rfl
    | some hit => exact List.dropLast_append_getLast? hit hlast
  rw [List.append_assoc, hitems]
  exact List.take_append_drop _ _

theorem completed_of_extract (hends : m.endsInContinuation = false) (hpos : 0 < m.steps.length)
    (hits : List Hit) :
    m.completed hits
      = (List.range (hits.length + 1 - m.steps.length)).map fun j =>
          hits.take (m.steps.length + j) := by
  induction hits using List.reverseRecOn with
  | nil =>
    have hempty : m.completed [] = [] := completed_of_lt hpos
    have hnone : ([] : List Hit).length + 1 - m.steps.length = 0 := by
      rw [List.length_nil]
      omega
    rw [hempty, hnone]
    rfl
  | append_singleton hits hit ih =>
    rw [completed_concat, ih, List.length_append, List.length_singleton]
    by_cases hle : m.steps.length ≤ hits.length + 1
    · have hsucc : hits.length + 1 + 1 - m.steps.length
          = (hits.length + 1 - m.steps.length) + 1 := by omega
      have hwhole : m.steps.length + (hits.length + 1 - m.steps.length)
          = (hits ++ [hit]).length := by
        rw [List.length_append, List.length_singleton]
        omega
      rw [if_pos ⟨hle, hends⟩, hsucc, List.range_succ, List.map_append, List.map_singleton,
        hwhole, List.take_length]
      congr 1
      refine List.map_congr_left fun j hj => ?_
      have hlt := List.mem_range.1 hj
      rw [List.take_append_of_le_length (by omega)]
    · have hzero : hits.length + 1 - m.steps.length = 0 := by omega
      have hzero' : hits.length + 1 + 1 - m.steps.length = 0 := by omega
      rw [if_neg (fun h => hle h.1), hzero, hzero']
      rfl

/-- A block in which the last step has matched is reported at each line of its loop. -/
theorem reports_of_loop (hm : m.Lawful) (hends : m.endsInContinuation = false) {b : Block}
    (hle : m.steps.length ≤ b.hits.length) :
    m.reports b
      = (List.range (b.hits.length + 1 - m.steps.length)).map fun j =>
          b.hits.take (m.steps.length + j) := by
  rw [← completed_of_extract hends hm.steps_pos]
  simp [reports, completed, hends, Nat.not_lt.2 hle]

end Compiled

theorem messageOf_eq_text (hits : List Hit) :
    messageOf hits = (⟨fragments hits⟩ : Message).text := by
  simp only [messageOf, Message.text, List.isEmpty_iff]

/-- **What the reports of a loop tell.**

If the last step of a compiled matcher repeats and extracts, a block in which it has
matched gives one report for each line of the loop, and its message has the fragments
of all lines up to that one.  So a report has the message of the lines before the loop
and its own line only if the lines of the loop in between gave no fragment, or gave
just the words that stand for a missing message where there is no other. -/
theorem loop_messages_iff {d : Definition} {place : Nat} {m : Compiled} {last : Step}
    (h : compile d place = .ok m) (hlast : m.steps.getLast? = some last)
    (hextracts : last.isContinuation = false) (context : Context) (number : Nat)
    (lines : List String) :
    (∃ es, State.blank.emissions m context number lines = .ok es ∧
      List.Forall₂
        (fun hits e =>
          e.record.message = messageOf hits ∧
          (e.record.message = m.ownMessage hits ↔
            fragments (m.earlierItems hits) = [] ∨
            fragments (m.headingOf hits ++ (m.itemsOf hits).getLast?.toList) = [] ∧
              " ".intercalate (fragments (m.earlierItems hits)) = Message.defaultText))
        ((m.blocks number lines).flatMap m.reports) es) ∧
    ∀ b ∈ m.blocks number lines, m.steps.length ≤ b.hits.length →
      m.reports b = (List.range (b.hits.length + 1 - m.steps.length)).map fun j =>
        b.hits.take (m.steps.length + j) := by
  have hm := compile_lawful h
  have hends : m.endsInContinuation = false := by
    rw [Compiled.endsInContinuation_of_getLast? hlast, hextracts]
  refine ⟨Compiled.emissions_forall₂ hm context number lines ?_,
    fun b _ hle => Compiled.reports_of_loop hm hends hle⟩
  intro start hits _
  refine ⟨Compiled.report_message hits, ?_⟩
  have hsplit : fragments hits = fragments (m.headingOf hits) ++ fragments (m.earlierItems hits)
      ++ fragments (m.itemsOf hits).getLast?.toList := by
    rw [← fragments_append, ← fragments_append, m.split_items]
  rw [Compiled.report_message, messageOf_eq_text, hsplit, Compiled.ownMessage, messageOf_eq_text,
    fragments_append]
  exact Message.text_insert_eq_iff _ _ _

/-- Two items, of which the second has no text of its own: it is reported with the text
of the first. -/
theorem loop_messages_blank :
    ∃ m last es, compile { pattern := some (.many
        [{ regexp := some "^Errors:$" },
          { regexp := some "^  (.*):(.*)$", file := some 1, message := some 2,
            loop := some true }]) } 0 = .ok m ∧
      m.steps.getLast? = some last ∧ last.isContinuation = false ∧ last.loops = true ∧
      State.blank.emissions m {} 0 ["Errors:", "  a.c: one", "  b.c: "] = .ok es ∧
      es.map (·.record.message) = ["one", "one"] ∧
      ((m.blocks 0 ["Errors:", "  a.c: one", "  b.c: "]).flatMap m.reports).map m.ownMessage
        = ["one", Message.defaultText] := by
  generalize hd : ({ pattern := some (.many
    [{ regexp := some "^Errors:$" },
      { regexp := some "^  (.*):(.*)$", file := some 1, message := some 2,
        loop := some true }]) } : Definition) = d
  have hroles : (compile d 0).toOption.map (fun m =>
      m.steps.getLast?.map fun last => (last.isContinuation, last.loops))
      = some (some (false, true)) := by
    subst hd
    decide +kernel
  have hmessages : (compile d 0).toOption.map (fun m =>
      ((m.blocks 0 ["Errors:", "  a.c: one", "  b.c: "]).flatMap m.reports).map fun hits =>
        (messageOf hits, m.ownMessage hits))
      = some [("one", "one"), ("one", Message.defaultText)] := by
    subst hd
    decide +kernel
  obtain ⟨m, hcompile, hrole⟩ := exists_of_toOption_map hroles
  obtain ⟨last, hlast, hrole⟩ := Option.map_eq_some_iff.1 hrole
  obtain ⟨hextracts, hloops⟩ := Prod.mk.inj hrole
  simp only [hcompile, Except.toOption, Option.map_some, Option.some.injEq] at hmessages
  obtain ⟨⟨es, hes, hall⟩, _⟩ :=
    loop_messages_iff hcompile hlast hextracts {} 0 ["Errors:", "  a.c: one", "  b.c: "]
  refine ⟨m, last, es, hcompile, hlast, hextracts, hloops, hes, ?_, ?_⟩
  · rw [map_eq_of_forall₂ (f := messageOf) (hall.imp fun _ _ h => h.1)]
    simpa [Function.comp_def] using congrArg (List.map Prod.fst) hmessages
  · simpa [Function.comp_def] using congrArg (List.map Prod.snd) hmessages

/-- Two items with a text each: the second is reported with both texts, though the first
was reported before. -/
theorem loop_messages_carry :
    ∃ m es, compile { pattern := some (.many
        [{ regexp := some "^Errors:$" },
          { regexp := some "^  (.*): (.*)$", file := some 1, message := some 2,
            loop := some true }]) } 0 = .ok m ∧
      State.blank.emissions m {} 0 ["Errors:", "  a.c: one", "  b.c: two"] = .ok es ∧
      es.map (fun e => (e.path, e.record.message)) = [("a.c", "one"), ("b.c", "one two")] ∧
      ((m.blocks 0 ["Errors:", "  a.c: one", "  b.c: two"]).flatMap m.reports).map m.ownMessage
        = ["one", "two"] := by
  generalize hd : ({ pattern := some (.many
    [{ regexp := some "^Errors:$" },
      { regexp := some "^  (.*): (.*)$", file := some 1, message := some 2,
        loop := some true }]) } : Definition) = d
  have howns : (compile d 0).toOption.map (fun m =>
      ((m.blocks 0 ["Errors:", "  a.c: one", "  b.c: two"]).flatMap m.reports).map
        m.ownMessage) = some ["one", "two"] := by
    subst hd
    decide +kernel
  have hrun : (compile d 0).toOption.map (fun m =>
      ((State.blank.emissions m {} 0 ["Errors:", "  a.c: one", "  b.c: two"]).toOption.map
        fun es => es.map fun e => (e.path, e.record.message)))
      = some (some [("a.c", "one"), ("b.c", "one two")]) := by
    subst hd
    decide +kernel
  obtain ⟨m, hcompile, hown⟩ := exists_of_toOption_map howns
  simp only [hcompile, Except.toOption, Option.map_some, Option.some.injEq] at hrun
  obtain ⟨es, hes, hmap⟩ := Option.map_eq_some_iff.1 hrun
  refine ⟨m, es, hcompile, ?_, hmap, hown⟩
  cases hresult : State.blank.emissions m {} 0 ["Errors:", "  a.c: one", "  b.c: two"] with
  | error fault =>
    rw [hresult] at hes
    cases hes
  | ok found =>
    rw [hresult] at hes
    rw [Option.some.inj hes]

end LogProblems.Matcher
