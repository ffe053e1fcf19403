import LogProblems.Proofs.Files.Tree
import LogProblems.Settings.Session

/-!
# What is selected again

A selection may name matchers that do not exist; they are passed over.  So the titles
that exist select the same matchers, and these are the titles that a session offers
when what it remembers is asked for.  A session that remembers a scan resolves to that
scan, but for the titles that do not exist.

* `select_existing`: the titles that exist;
* `resolve_rescan`: what a session resolves to that remembers a scan.
-/

set_option autoImplicit false

namespace LogProblems

open LogProblems.Matcher

/-- The definition with the title that it has at a place. -/
def Matcher.Definition.titledAt (d : Definition) (place : Nat) : Definition :=
  { d with title := some (d.titleAt place) }

namespace Settings

/-! ## Files -/

section Files

variable {t u : FileTree} {path : String}

/-- Settings are loaded from what can be read under their path. -/
theorem load_congr (h : u.read path = t.read path) : load u path = load t path := by
  rw [load, load, FileTree.readText_congr h]

theorem load_of_read {settings : Settings} {text : String}
    (h : t.read path = .ok (Text.Utf8.encode text)) (hjson : isYamlPath path = false)
    (hread : (Document.Json.read text).bind ofNode? = some settings) :
    load t path = .ok settings := by
  simp only [load, FileTree.readText_of_read h, hjson, Bool.false_eq_true, if_false, ofJson, hread]

theorem exists_read_of_load {settings : Settings} (h : load t path = .ok settings) :
    ∃ octets, t.read path = .ok octets := by
  rw [load] at h
  split at h
  · cases h
  · next htext => exact FileTree.exists_read_of_readText htext

end Files

/-! ## Titles that exist -/

variable {settings : Settings} {selection : Selection} {ds definitions : List Definition}

theorem titled_eq_map (ds : List Definition) :
    titled ds = ds.zipIdx.map fun x => (x.1.titleAt x.2, x.1) := by
  rw [titled, List.mapIdx_eq_zipIdx_map]

/-- The matchers that a selection names, with their titles. -/
def chosen (ds : List Definition) (titles : List String) : List (String × Definition) :=
  (titled ds).filter fun x => titles.contains x.1

theorem select_eq_ok_iff :
    settings.select selection = .ok definitions ↔
      ∃ ds, settings.matchers selection.parser = .ok ds ∧ chosen ds selection.matchers ≠ [] ∧
        definitions
          = (chosen ds selection.matchers).map fun x => { x.2 with title := some x.1 } := by
  rw [select]
  cases hmatchers : settings.matchers selection.parser with
  | error fault =>
    constructor
    · intro h
      cases h
    · rintro ⟨_, h, -⟩
      cases h
  | ok ds =>
    constructor
    · intro h
      refine ⟨ds, rfl, ?_⟩
      simp only at h
      split at h
      · cases h
      · next hne => exact ⟨by simpa [chosen] using hne, (Except.ok.inj h).symm⟩
    · rintro ⟨_, hds, hne, rfl⟩
      obtain rfl := Except.ok.inj hds
      exact if_neg (by simpa [chosen] using hne)

/-- The titles of a selection that a parser's matchers have. -/
def existing (present titles : List String) : List String :=
  titles.filter fun title => present.contains title

theorem existing_existing (present titles : List String) :
    existing present (existing present titles) = existing present titles := by
  rw [existing, existing, List.filter_filter]
  simp only [Bool.and_self]

/-- The titles that exist choose the same matchers. -/
theorem chosen_existing (ds : List Definition) (titles : List String) :
    chosen ds (existing ((titled ds).map (·.1)) titles) = chosen ds titles := by
  refine List.filter_congr fun x hx => ?_
  have hpresent : x.1 ∈ (titled ds).map (·.1) := List.mem_map_of_mem hx
  rw [Bool.eq_iff_iff, List.contains_iff_mem, List.contains_iff_mem, existing, List.mem_filter,
    List.contains_iff_mem]
  exact and_iff_left hpresent

theorem titles_of_matchers {parser : String} (h : settings.matchers parser = .ok ds) :
    settings.titles parser = .ok ((titled ds).map (·.1)) := by
  rw [titles, h]
  rfl

theorem existing_ne_nil {titles : List String} (h : chosen ds titles ≠ []) :
    existing ((titled ds).map (·.1)) titles ≠ [] := by
  obtain ⟨x, hx⟩ := List.exists_mem_of_ne_nil _ h
  obtain ⟨hmem, hchosen⟩ := List.mem_filter.1 hx
  refine List.ne_nil_of_mem (List.mem_filter.2 ⟨List.contains_iff_mem.1 hchosen, ?_⟩)
  exact List.contains_iff_mem.2 (List.mem_map_of_mem hmem)

/-- What a selection selects, the titles that exist select, and there are some. -/
theorem select_existing (h : settings.select selection = .ok definitions) :
    ∃ present, settings.titles selection.parser = .ok present ∧
      existing present selection.matchers ≠ [] ∧
      settings.select { selection with matchers := existing present selection.matchers }
        = .ok definitions := by
  obtain ⟨ds, hds, hne, hdefinitions⟩ := select_eq_ok_iff.1 h
  refine ⟨_, titles_of_matchers hds, existing_ne_nil hne, select_eq_ok_iff.2 ⟨ds, hds, ?_⟩⟩
  rw [chosen_existing]
  exact ⟨hne, hdefinitions⟩

end Settings

/-! ## Sessions that remember a scan -/

namespace Session

variable {s : Session} {settings : Settings} {selection : Selection} {log : String}
  {definitions : List Definition}

theorem resolve_scanFile (s : Session) (settings : Settings) (selection : Selection)
    (log : String) :
    s.resolve settings (.scanFile selection log)
      = (settings.select selection).map fun definitions => { selection, log, definitions } := by
  simp only [resolve, bind, Except.bind, pure, Except.pure]
  cases settings.select selection <;> rfl

/-- The last scan that the session remembers. -/
structure Remembers (s : Session) (selection : Selection) (log : String) : Prop where
  parser : s.parser = some selection.parser
  titles : s.matchers.lookup selection.parser = some selection.matchers
  log : s.log = some log

theorem record_remembers (s : Session) (selection : Selection) (log : String) :
    (s.record selection log).Remembers selection log :=
  ⟨rfl, lookup_setTitles _ _ _, rfl⟩

/-- What a session resolves to that remembers a scan: the scan without the titles that do
not exist. -/
theorem resolve_rescan (h : s.Remembers selection log)
    (hselect : settings.select selection = .ok definitions) :
    ∃ present, settings.titles selection.parser = .ok present ∧
      s.resolve settings .rescan = .ok
        { selection :=
            { selection with matchers := Settings.existing present selection.matchers }
          log
          definitions } := by
  obtain ⟨ds, hds, -⟩ := Settings.select_eq_ok_iff.1 hselect
  obtain ⟨present, hpresent, hne, hexisting⟩ := Settings.select_existing hselect
  have husual : s.usualParser settings = .ok selection.parser := by
    simp only [usualParser, h.parser, hds]
  have hpreselected : s.preselected settings selection.parser
      = .ok { selection with matchers := Settings.existing present selection.matchers } := by
    simp only [preselected, hpresent, h.titles, Option.getD_some]
    exact if_neg (by simpa [Settings.existing] using hne)
  have hlog : s.rememberedLog = .ok log := by simp only [rememberedLog, h.log]
  refine ⟨present, hpresent, ?_⟩
  simp only [resolve, husual, hpreselected, hlog, bind, Except.bind, pure, Except.pure, hexisting]

end Session

end LogProblems
