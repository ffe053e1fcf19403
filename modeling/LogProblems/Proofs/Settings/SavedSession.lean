import Mathlib.Data.List.Nodup
import Mathlib.Data.List.Perm.Basic
import LogProblems.Proofs.Settings.Session

/-!
# What a saved session says

The text of a session is a normal form: it says what the session remembers, all of it,
and nothing about how it came to remember that.  It is read as the session that was
written, whatever characters stand in the names, the titles and the log; so sessions with
one text remember the same, and a session that was loaded is saved as it was found.

What a session remembers after many scans is the titles of the last scan with each
parser, and the parser and the log of the last scan of all.  In which order the parsers
had their turns is not remembered, and therefore not written.

* `Ordered.ext`: titles in order are told apart by what is looked up in them;
* `written_eq_iff`: sessions with one text;
* `exists_save_of_load`: sessions that are saved again;
* `lookup_recordAll` and `recordAll_congr`: what many scans leave behind;
* `saved_session_round_trips`: all of it.
-/

set_option autoImplicit false

namespace LogProblems.Session

open LogProblems.Document

variable {name path : String} {titles : List String} {all all' : List (String × List String)}
  {s s' : Session} {t u : FileTree}

/-! ## Titles in order -/

theorem Ordered.lookup_eq_some_iff (h : Ordered all) :
    all.lookup name = some titles ↔ (name, titles) ∈ all := by
  rw [List.lookup_eq_some_iff]
  constructor
  · rintro ⟨before, after, rfl, -⟩
    exact List.mem_append_right _ List.mem_cons_self
  · intro hmem
    obtain ⟨before, after, rfl⟩ := List.append_of_mem hmem
    refine ⟨before, after, rfl, fun e he => bne_iff_ne.2 ?_⟩
    have hlt : e.1 < name := (List.pairwise_append.1 h).2.2 e he _ List.mem_cons_self
    exact (ne_of_name_lt hlt).symm

theorem Ordered.nodup (h : Ordered all) : all.Nodup :=
  h.imp fun hlt heq => ne_of_name_lt hlt (congrArg Prod.fst heq)

/-- Titles in order are told apart by what is looked up in them. -/
theorem Ordered.ext (h : Ordered all) (h' : Ordered all')
    (hlookup : ∀ name, all.lookup name = all'.lookup name) : all = all' := by
  have hmem : ∀ e, e ∈ all ↔ e ∈ all' := by
    rintro ⟨name, titles⟩
    rw [← h.lookup_eq_some_iff, ← h'.lookup_eq_some_iff, hlookup]
  have hperm : all.Perm all' := (List.perm_ext_iff_of_nodup h.nodup h'.nodup).2 hmem
  refine hperm.eq_of_pairwise (fun e e' _ _ hlt hgt => ?_) h h'
  exact absurd (String.lt_trans hlt hgt) (String.lt_irrefl _)

/-- Sessions that remember the same. -/
structure SameAs (s s' : Session) : Prop where
  parser : s.parser = s'.parser
  titles : ∀ name, s.matchers.lookup name = s'.matchers.lookup name
  log : s.log = s'.log

theorem SameAs.eq (h : s.SameAs s') : s = s' :=
  Session.ext h.parser (s.ordered.ext s'.ordered h.titles) h.log

/-! ## The text -/

/-- The text that is written for a session. -/
def written (s : Session) : String :=
  s.toTree.pretty

/-- One text is written for the sessions that remember the same. -/
theorem written_eq_iff : s.written = s'.written ↔ s.SameAs s' := by
  constructor
  · intro h
    have hread : (Json.read s.written).bind ofNode? = some s := ofNode?_read_pretty s
    rw [h, written, ofNode?_read_pretty s'] at hread
    rw [Option.some.inj hread]
    exact ⟨rfl, fun _ => rfl, rfl⟩
  · intro h
    rw [h.eq]

/-! ## The file -/

theorem read_of_save (h : s.save t path = .ok u) :
    u.read path = .ok (Text.Utf8.encode s.written) :=
  FileTree.read_of_write (save_eq_ok_iff.1 h)

/-- Only the file can fail: where it can be written, what is in it is loaded. -/
theorem save_cases (s : Session) (t : FileTree) (path : String) :
    (∃ fault, t.write path (Text.Utf8.encode s.written) = .error fault ∧
      s.save t path = .error (.io fault)) ∨
    ∃ u, s.save t path = .ok u ∧ u.readText path = .ok s.written ∧ load u path = .ok s := by
  cases hwrite : t.write path (Text.Utf8.encode s.written) with
  | error fault =>
    have hsave : s.save t path = .error (.io fault) := by
      rw [written] at hwrite
      rw [save, hwrite]
    exact .inl ⟨fault, rfl, hsave⟩
  | ok u =>
    have hsave : s.save t path = .ok u := save_eq_ok_iff.2 hwrite
    exact .inr ⟨u, hsave, FileTree.readText_of_read (read_of_save hsave), load_of_save hsave⟩

theorem exists_save_of_load (h : s.save t path = .ok u) (hload : load u path = .ok s') :
    ∃ v, s'.save u path = .ok v ∧ v.read path = u.read path := by
  obtain rfl : s = s' := Except.ok.inj ((load_of_save h).symm.trans hload)
  have hread := read_of_save h
  obtain ⟨v, hwrite⟩ := FileTree.exists_write_of_read hread (Text.Utf8.encode s.written)
  have hsave : s.save u path = .ok v := save_eq_ok_iff.2 hwrite
  exact ⟨v, hsave, (read_of_save hsave).trans hread.symm⟩

/-! ## Many scans -/

/-- Remembers several scans, one after the other. -/
def recordAll (s : Session) (scans : List (Selection × String)) : Session :=
  scans.foldl (fun s scan => s.record scan.1 scan.2) s

/-- The scans with one parser, in their order. -/
def scansOf (parser : String) (scans : List (Selection × String)) : List (Selection × String) :=
  scans.filter fun scan => scan.1.parser = parser

theorem recordAll_concat (s : Session) (scans : List (Selection × String))
    (last : Selection × String) :
    s.recordAll (scans ++ [last]) = (s.recordAll scans).record last.1 last.2 :=
  List.foldl_concat _ _ _ _

theorem lookup_recordAll (s : Session) (scans : List (Selection × String)) (parser : String) :
    (s.recordAll scans).matchers.lookup parser
      = ((scansOf parser scans).getLast?.map (·.1.matchers)).or (s.matchers.lookup parser) := by
  induction scans using List.reverseRecOn with
  | nil => rfl
  | append_singleton init last ih =>
    rw [recordAll_concat, scansOf, List.filter_append]
    by_cases hlast : last.1.parser = parser
    · subst hlast
      rw [List.filter_cons_of_pos (by simp), List.filter_nil, List.getLast?_concat]
      exact lookup_setTitles _ _ _
    · rw [List.filter_cons_of_neg (by simpa using hlast), List.filter_nil, List.append_nil]
      exact (lookup_setTitles_of_ne (Ne.symm hlast)).trans ih

theorem recordAll_last (s : Session) (scans : List (Selection × String)) :
    (s.recordAll scans).parser = (scans.getLast?.map (·.1.parser)).or s.parser ∧
      (s.recordAll scans).log = (scans.getLast?.map (·.2)).or s.log := by
  obtain rfl | ⟨init, last, rfl⟩ := scans.eq_nil_or_concat
  · exact ⟨rfl, rfl⟩
  · rw [List.concat_eq_append, recordAll_concat, List.getLast?_concat]
    exact ⟨rfl, rfl⟩

/-- Each parser has the same scans where every parser was scanned with once, in any order. -/
theorem scansOf_eq_of_perm {scans scans' : List (Selection × String)} (h : scans.Perm scans')
    (honce : (scans.map (·.1.parser)).Nodup) (parser : String) :
    scansOf parser scans = scansOf parser scans' := by
  induction h with
  | nil => rfl
  | cons scan _ ih =>
    have htail := ih (List.nodup_cons.1 honce).2
    simp only [scansOf, List.filter_cons] at htail ⊢
    rw [htail]
  | swap first second rest =>
    -- At most one of the two is a scan with this parser.
    have hne : second.1.parser ≠ first.1.parser := by
      intro heq
      exact (List.nodup_cons.1 honce).1 (List.mem_cons.2 (.inl heq))
    by_cases hfirst : first.1.parser = parser
    · have hsecond : second.1.parser ≠ parser := fun heq => hne (heq.trans hfirst.symm)
      simp only [scansOf, List.filter_cons, hfirst, hsecond, decide_true, decide_false, if_true,
        Bool.false_eq_true, if_false]
    · simp only [scansOf, List.filter_cons, hfirst, decide_false, Bool.false_eq_true, if_false]
  | trans h _ ih ih' => exact (ih honce).trans (ih' ((h.map _).nodup_iff.1 honce))

/-- The turns of the parsers are not remembered, apart from the last one. -/
theorem recordAll_congr {scans scans' : List (Selection × String)}
    (hlast : scans.getLast? = scans'.getLast?)
    (hscans : ∀ parser, scansOf parser scans = scansOf parser scans') :
    (s.recordAll scans).SameAs (s.recordAll scans') where
  parser := by rw [(recordAll_last s scans).1, (recordAll_last s scans').1, hlast]
  titles parser := by rw [lookup_recordAll, lookup_recordAll, hscans]
  log := by rw [(recordAll_last s scans).2, (recordAll_last s scans').2, hlast]

/-- **A saved session is loaded as it was, and says only what it remembers.**

Saving fails only where the file cannot be written; otherwise the text in the file is
loaded as the session that was saved.  Two sessions write one text exactly if they
remember the same parser, the same titles for every parser and the same log.  What was
loaded from a saved file is saved there with the same octets, and anywhere else.  Scans
that are recorded with the parsers in another order, the last one apart, leave a session
with the same text. -/
theorem saved_session_round_trips (s s' : Session) :
    (∀ t path, (∃ fault, t.write path (Text.Utf8.encode s.written) = .error fault ∧
        s.save t path = .error (.io fault)) ∨
      ∃ u, s.save t path = .ok u ∧ u.readText path = .ok s.written ∧ load u path = .ok s) ∧
    (s.written = s'.written ↔ s.SameAs s') ∧
    (∀ t u path loaded, s.save t path = .ok u → load u path = .ok loaded →
      (∃ v, loaded.save u path = .ok v ∧ v.read path = u.read path) ∧
      ∀ t' path' v, loaded.save t' path' = .ok v → v.read path' = u.read path) ∧
    ∀ scans scans' : List (Selection × String), scans.getLast? = scans'.getLast? →
      (∀ parser, scansOf parser scans = scansOf parser scans') →
      (s.recordAll scans).written = (s.recordAll scans').written := by
  refine ⟨save_cases s, written_eq_iff, ?_, ?_⟩
  · intro t u path loaded hsave hload
    refine ⟨exists_save_of_load hsave hload, fun t' path' v hagain => ?_⟩
    obtain rfl : s = loaded := Except.ok.inj ((load_of_save hsave).symm.trans hload)
    rw [read_of_save hagain, read_of_save hsave]
  · intro scans scans' hlast hscans
    exact written_eq_iff.2 (recordAll_congr hlast hscans)

/-- Names and titles with quotes, backslashes, control characters and letters beyond ASCII,
and two more scans in both orders. -/
theorem saved_session_round_trips_unusual :
    ∃ (s : Session) (u v : FileTree) (one two last : Selection × String),
      s = { parser := some "\"\\"
            matchers := [("\"\\", ["\u0001", "say \"hi\"\n"]), ("größe", [])]
            log := some "\t日志"
            ordered := by decide +kernel } ∧
      one = (⟨"größe", ["\\n"]⟩, "a") ∧ two = (⟨"", [""]⟩, "b") ∧ last = (⟨"make", []⟩, "c") ∧
      s.save {} "s" = .ok u ∧ load u "s" = .ok s ∧
      s.save u "s" = .ok v ∧ v.read "s" = u.read "s" ∧
      (s.recordAll [one, two, last]).written = (s.recordAll [two, one, last]).written ∧
      (s.recordAll [one]).written ≠ s.written := by
  let s : Session :=
    { parser := some "\"\\"
      matchers := [("\"\\", ["\u0001", "say \"hi\"\n"]), ("größe", [])]
      log := some "\t日志"
      ordered := by decide +kernel }
  let one : Selection × String := (⟨"größe", ["\\n"]⟩, "a")
  let two : Selection × String := (⟨"", [""]⟩, "b")
  let last : Selection × String := (⟨"make", []⟩, "c")
  obtain ⟨hsave, hwritten, hagain, hscans⟩ := saved_session_round_trips s (s.recordAll [one])
  obtain ⟨fault, hwrite, -⟩ | ⟨u, hu, -, hload⟩ := hsave {} "s"
  · have hname : FileTree.IsName "s" := FileTree.isName_letter (by simp)
    have hnothing : ({} : FileTree).entries.lookup ["s"] ≠ some .directory := by simp
    obtain ⟨_, hfile⟩ := hname.exists_write hnothing (Text.Utf8.encode s.written)
    cases hfile.symm.trans hwrite
  obtain ⟨⟨v, hv, hread⟩, -⟩ := hagain {} u "s" s hu hload
  have horder : ∀ parser, scansOf parser [one, two, last] = scansOf parser [two, one, last] :=
    scansOf_eq_of_perm (List.Perm.swap two one [last]) (by decide +kernel)
  refine ⟨s, u, v, one, two, last, rfl, rfl, rfl, rfl, hu, hload, hv, hread,
    hscans _ _ rfl horder, fun h => ?_⟩
  have hsame := (hwritten.1 h.symm).parser
  exact absurd hsame (by decide +kernel)

end LogProblems.Session
