import LogProblems.Proofs.Settings.Selection

/-!
# What a request comes to

A request names a selection and a log, or leaves one of them or both to what the session
remembers.  What it comes to is said here in terms of the settings as they are written:
of several parsers with one name the first is meant, and a title is the one declared or
the one made from the place.

A rescan falls back twice: from the remembered parser to the first one of the settings,
where it is absent, unknown or empty; and from the remembered titles to the default ones,
where none of them exists any more.  It looks for the log when it has found matchers, and
for definitions when it has found a log; a new selection for the same log looks for the
log before anything else.

* `matchers_eq_ok_iff` and `matchers_eq_error_iff`: the matchers of a parser;
* `select_eq_error_iff`: selections that select nothing;
* `Rescans.usualParser` and `preselected_of_firstNamed`: what a rescan falls back on;
* `chosen_offered_eq_nil_iff`: rescans that are offered nothing;
* `resolve_eq_ok_iff` and `resolve_eq_error_iff`: one request;
* `resolution_complete`: all requests, whatever comes of them.
-/

set_option autoImplicit false

namespace LogProblems

open LogProblems.Matcher

namespace Settings

variable {settings : Settings} {parser : String} {selection : Selection} {ds : List Definition}
  {fault : SelectionFault}

/-! ## The matchers of a parser -/

/-- The first parser of that name has these matchers. -/
def FirstNamed (settings : Settings) (parser : String) (ds : List Definition) : Prop :=
  ∃ before after, settings.parsers = before ++ (parser, ds) :: after ∧
    ∀ e ∈ before, e.1 ≠ parser

/-- Why a parser gives no matchers. -/
def Lacks (settings : Settings) (parser : String) : SelectionFault → Prop
  | .noParsers => settings.parsers = []
  | .unknownParser p => p = parser ∧ settings.parsers ≠ [] ∧ ∀ e ∈ settings.parsers, e.1 ≠ parser
  | .noMatchers p => p = parser ∧ settings.FirstNamed parser []
  | .nothingSelected _ => False
  | .noLogFile => False

theorem lookup_eq_some_iff : settings.parsers.lookup parser = some ds ↔
    settings.FirstNamed parser ds := by
  simp only [List.lookup_eq_some_iff, FirstNamed, bne_iff_ne, ne_comm (a := parser)]

theorem lookup_eq_none_iff : settings.parsers.lookup parser = none ↔
    ∀ e ∈ settings.parsers, e.1 ≠ parser := by
  simp only [List.lookup_eq_none_iff, bne_iff_ne, ne_comm (a := parser)]

theorem FirstNamed.unique {ds' : List Definition} (h : settings.FirstNamed parser ds)
    (h' : settings.FirstNamed parser ds') : ds = ds' :=
  Option.some.inj ((lookup_eq_some_iff.2 h).symm.trans (lookup_eq_some_iff.2 h'))

theorem FirstNamed.parsers_ne_nil (h : settings.FirstNamed parser ds) : settings.parsers ≠ [] := by
  obtain ⟨before, after, hparsers, -⟩ := h
  rw [hparsers]
  exact List.append_ne_nil_of_right_ne_nil _ (List.cons_ne_nil _ _)

/-- The parser that stands first is the first of its name. -/
theorem firstNamed_of_cons {rest : List (String × List Definition)}
    (h : settings.parsers = (parser, ds) :: rest) : settings.FirstNamed parser ds :=
  ⟨[], rest, h, fun _ he => absurd he List.not_mem_nil⟩

theorem matchers_of_firstNamed (h : settings.FirstNamed parser ds) :
    settings.matchers parser = if ds = [] then .error (.noMatchers parser) else .ok ds := by
  have hparsers : settings.parsers.isEmpty = false := by
    simpa using h.parsers_ne_nil
  rw [matchers, hparsers, lookup_eq_some_iff.2 h]
  cases ds <;> rfl

/-- What a parser gives: the matchers of the first one of its name, if there are any. -/
theorem matchers_eq_ok_iff :
    settings.matchers parser = .ok ds ↔ settings.FirstNamed parser ds ∧ ds ≠ [] := by
  constructor
  · intro h
    unfold matchers at h
    split at h
    · cases h
    · split at h
      · cases h
      · cases h
      · next hne hlookup =>
        cases h
        exact ⟨lookup_eq_some_iff.1 hlookup, hne⟩
  · rintro ⟨hfirst, hne⟩
    rw [matchers_of_firstNamed hfirst, if_neg hne]

theorem matchers_eq_error_iff :
    settings.matchers parser = .error fault ↔ settings.Lacks parser fault := by
  constructor
  · intro h
    unfold matchers at h
    split at h
    · next hparsers =>
      cases h
      exact List.isEmpty_iff.1 hparsers
    · next hparsers =>
      split at h
      · next hlookup =>
        cases h
        exact ⟨rfl, mt List.isEmpty_iff.2 hparsers, lookup_eq_none_iff.1 hlookup⟩
      · next hlookup =>
        cases h
        exact ⟨rfl, lookup_eq_some_iff.1 hlookup⟩
      · cases h
  · intro h
    cases fault with
    | noParsers => rw [matchers, if_pos (List.isEmpty_iff.2 h)]
    | unknownParser p =>
      obtain ⟨rfl, hne, hnone⟩ := h
      rw [matchers, if_neg (mt List.isEmpty_iff.1 hne), lookup_eq_none_iff.2 hnone]
    | noMatchers p =>
      obtain ⟨rfl, hfirst⟩ := h
      rw [matchers_of_firstNamed hfirst, if_pos rfl]
    | nothingSelected p => exact h.elim
    | noLogFile => exact h.elim

/-! ## Selections -/

/-- Why a selection selects nothing: there are no matchers, or it names none of them. -/
def Refuses (settings : Settings) (selection : Selection) : SelectionFault → Prop
  | .nothingSelected p => p = selection.parser ∧ ∃ ds, ds ≠ [] ∧
      settings.FirstNamed selection.parser ds ∧
      ∀ title ∈ (titled ds).map (·.1), title ∉ selection.matchers
  | fault => settings.Lacks selection.parser fault

theorem chosen_eq_nil_iff {titles : List String} :
    chosen ds titles = [] ↔ ∀ title ∈ (titled ds).map (·.1), title ∉ titles := by
  rw [chosen, List.filter_eq_nil_iff, List.forall_mem_map]
  simp only [List.contains_iff_mem]

theorem Lacks.refuses (h : settings.Lacks selection.parser fault) :
    settings.Refuses selection fault := by
  cases fault with
  | nothingSelected p => exact h.elim
  | noParsers => exact h
  | unknownParser p => exact h
  | noMatchers p => exact h
  | noLogFile => exact h

theorem select_of_lacks (h : settings.Lacks selection.parser fault) :
    settings.select selection = .error fault := by
  rw [select, matchers_eq_error_iff.2 h]

theorem select_eq_error_iff :
    settings.select selection = .error fault ↔ settings.Refuses selection fault := by
  constructor
  · intro h
    unfold select at h
    split at h
    · next hmatchers =>
      cases h
      exact (matchers_eq_error_iff.1 hmatchers).refuses
    · next ds hmatchers =>
      dsimp only at h
      split at h
      · next hnone =>
        cases h
        obtain ⟨hfirst, hne⟩ := matchers_eq_ok_iff.1 hmatchers
        exact ⟨rfl, ds, hne, hfirst, chosen_eq_nil_iff.1 (List.isEmpty_iff.1 hnone)⟩
      · cases h
  · intro h
    cases fault with
    | nothingSelected p =>
      obtain ⟨rfl, ds, hne, hfirst, hnone⟩ := h
      rw [select, matchers_eq_ok_iff.2 ⟨hfirst, hne⟩]
      exact if_pos (List.isEmpty_iff.2 (chosen_eq_nil_iff.2 hnone))
    | noParsers => exact select_of_lacks h
    | unknownParser p => exact select_of_lacks h
    | noMatchers p => exact select_of_lacks h
    | noLogFile => exact select_of_lacks h

/-- No selection fails for want of a log. -/
theorem select_ne_noLogFile (selection : Selection) :
    settings.select selection ≠ .error .noLogFile :=
  fun h => select_eq_error_iff.1 h

/-- What a selection selects: the definitions that it names, in the order of the settings,
each with its title, and at least one. -/
def Selects (settings : Settings) (selection : Selection) (definitions : List Definition) :
    Prop :=
  definitions ≠ [] ∧ ∃ ds, settings.FirstNamed selection.parser ds ∧
    definitions = (chosen ds selection.matchers).map fun x => { x.2 with title := some x.1 }

theorem select_eq_ok_iff_selects {definitions : List Definition} :
    settings.select selection = .ok definitions ↔ settings.Selects selection definitions := by
  rw [select_eq_ok_iff]
  constructor
  · rintro ⟨ds, hds, hne, rfl⟩
    exact ⟨mt List.map_eq_nil_iff.1 hne, ds, (matchers_eq_ok_iff.1 hds).1, rfl⟩
  · rintro ⟨hne, ds, hfirst, rfl⟩
    have hchosen : chosen ds selection.matchers ≠ [] := mt List.map_eq_nil_iff.2 hne
    have hds : ds ≠ [] := by
      rintro rfl
      exact hchosen rfl
    exact ⟨ds, matchers_eq_ok_iff.2 ⟨hfirst, hds⟩, hchosen, rfl⟩

/-- A selection from a parser that has matchers is refused if it names none of them. -/
theorem refuses_iff_of_firstNamed (h : settings.FirstNamed selection.parser ds) (hne : ds ≠ []) :
    settings.Refuses selection fault ↔
      fault = .nothingSelected selection.parser ∧ chosen ds selection.matchers = [] := by
  rw [← select_eq_error_iff]
  by_cases hnone : chosen ds selection.matchers = []
  · have hrefuses : settings.Refuses selection (.nothingSelected selection.parser) :=
      ⟨rfl, ds, hne, h, chosen_eq_nil_iff.1 hnone⟩
    rw [select_eq_error_iff.2 hrefuses, Except.error.injEq, eq_comm, and_iff_left hnone]
  · have hselects := select_eq_ok_iff_selects.2 ⟨mt List.map_eq_nil_iff.1 hnone, ds, h, rfl⟩
    rw [hselects]
    exact iff_of_false nofun fun hnothing => hnone hnothing.2

/-! ## Titles that exist -/

/-- Titles that exist choose something if there are any. -/
theorem chosen_eq_nil_iff_of_subset {titles : List String}
    (h : ∀ title ∈ titles, title ∈ (titled ds).map (·.1)) :
    chosen ds titles = [] ↔ titles = [] := by
  rw [chosen_eq_nil_iff]
  constructor
  · intro hnone
    exact List.eq_nil_iff_forall_not_mem.2 fun title ht => hnone title (h title ht) ht
  · rintro rfl title -
    exact List.not_mem_nil

theorem existing_eq_nil_iff {present titles : List String} :
    existing present titles = [] ↔ ∀ title ∈ titles, title ∉ present := by
  rw [existing, List.filter_eq_nil_iff]
  simp only [List.contains_iff_mem]

/-- The titles of the matchers that are selected unless something else is said. -/
def defaults (ds : List Definition) : List String :=
  ((titled ds).filter (·.2.isDefaultSelected)).map (·.1)

theorem defaultSelection_of_firstNamed (h : settings.FirstNamed parser ds) (hne : ds ≠ []) :
    settings.defaultSelection parser = .ok ⟨parser, defaults ds⟩ := by
  rw [defaultSelection, matchers_eq_ok_iff.2 ⟨h, hne⟩]
  rfl

theorem defaults_eq_nil_iff : defaults ds = [] ↔ ∀ d ∈ ds, d.isDefaultSelected = false := by
  have hds : (titled ds).map (·.2) = ds := by
    rw [titled_eq_map, List.map_map]
    exact List.zipIdx_map_fst 0 ds
  rw [defaults, List.map_eq_nil_iff, List.filter_eq_nil_iff]
  conv_rhs => rw [← hds]
  rw [List.forall_mem_map]
  simp only [Bool.not_eq_true]

end Settings

namespace Session

variable {s : Session} {settings : Settings} {parser log : String} {selection : Selection}
  {ds : List Definition}

/-! ## What a rescan falls back on -/

/-- The remembered parser is absent, unknown or empty. -/
def LacksParser (s : Session) (settings : Settings) : Prop :=
  ∀ parser ds, s.parser = some parser → settings.FirstNamed parser ds → ds = []

/-- The parser of a rescan: the remembered one, or else the first. -/
inductive Rescans (s : Session) (settings : Settings) : String → List Definition → Prop
  | remembered {parser : String} {ds : List Definition} : s.parser = some parser →
      settings.FirstNamed parser ds → ds ≠ [] → Rescans s settings parser ds
  | first {parser : String} {ds : List Definition} {rest : List (String × List Definition)} :
      s.LacksParser settings → settings.parsers = (parser, ds) :: rest →
        Rescans s settings parser ds

theorem Rescans.firstNamed (h : s.Rescans settings parser ds) : settings.FirstNamed parser ds := by
  cases h with
  | remembered _ hfirst _ => exact hfirst
  | first _ hparsers => exact Settings.firstNamed_of_cons hparsers

/-- The titles that are remembered for a parser. -/
def rememberedTitles (s : Session) (parser : String) : List String :=
  (s.matchers.lookup parser).getD []

/-- The titles of a rescan: the remembered ones that exist, or else the default ones. -/
def offered (s : Session) (parser : String) (ds : List Definition) : List String :=
  let present := Settings.existing ((Settings.titled ds).map (·.1)) (s.rememberedTitles parser)
  if present = [] then Settings.defaults ds else present

theorem mem_titles_of_mem_offered {title : String} (h : title ∈ s.offered parser ds) :
    title ∈ (Settings.titled ds).map (·.1) := by
  unfold offered at h
  dsimp only at h
  split at h
  · exact (List.filter_sublist.map _).subset h
  · exact List.contains_iff_mem.1 (List.mem_filter.1 h).2

/-- Nothing is offered if no remembered title exists and no matcher is a default one. -/
theorem chosen_offered_eq_nil_iff :
    Settings.chosen ds (s.offered parser ds) = [] ↔
      (∀ title ∈ s.rememberedTitles parser, title ∉ (Settings.titled ds).map (·.1)) ∧
        ∀ d ∈ ds, d.isDefaultSelected = false := by
  rw [Settings.chosen_eq_nil_iff_of_subset fun _ => mem_titles_of_mem_offered,
    ← Settings.existing_eq_nil_iff, ← Settings.defaults_eq_nil_iff]
  unfold offered
  dsimp only
  split
  · next hnone => exact (and_iff_right hnone).symm
  · next hsome => exact iff_of_false hsome fun h => hsome h.1

theorem usualParser_of_lacks (h : s.LacksParser settings) :
    s.usualParser settings = settings.defaultParser := by
  unfold usualParser
  split
  · next parser hparser =>
    split
    · next hmatchers =>
      obtain ⟨hfirst, hne⟩ := Settings.matchers_eq_ok_iff.1 hmatchers
      exact absurd (h _ _ hparser hfirst) hne
    · rfl
  · rfl

theorem Rescans.usualParser (h : s.Rescans settings parser ds) :
    s.usualParser settings = .ok parser := by
  cases h with
  | remembered hparser hfirst hne =>
    simp only [Session.usualParser, hparser, Settings.matchers_eq_ok_iff.2 ⟨hfirst, hne⟩]
  | first hlacks hparsers =>
    rw [usualParser_of_lacks hlacks, Settings.defaultParser, hparsers]

theorem Rescans.unique {parser' : String} {ds' : List Definition}
    (h : s.Rescans settings parser ds) (h' : s.Rescans settings parser' ds') : ds = ds' := by
  obtain rfl : parser = parser' := Except.ok.inj (h.usualParser.symm.trans h'.usualParser)
  exact h.firstNamed.unique h'.firstNamed

/-- A rescan has a parser unless there is none. -/
theorem exists_rescans (s : Session) (hne : settings.parsers ≠ []) :
    ∃ parser ds, s.Rescans settings parser ds := by
  by_cases hlacks : s.LacksParser settings
  · cases hparsers : settings.parsers with
    | nil => exact absurd hparsers hne
    | cons first rest =>
      obtain ⟨parser, ds⟩ := first
      exact ⟨parser, ds, .first hlacks hparsers⟩
  · unfold LacksParser at hlacks
    push Not at hlacks
    obtain ⟨parser, ds, hparser, hfirst, hds⟩ := hlacks
    exact ⟨parser, ds, .remembered hparser hfirst hds⟩

theorem preselected_of_firstNamed (h : settings.FirstNamed parser ds) (hne : ds ≠ []) :
    s.preselected settings parser = .ok { parser, matchers := s.offered parser ds } := by
  have hmatchers := Settings.matchers_eq_ok_iff.2 ⟨h, hne⟩
  have hdefault := Settings.defaultSelection_of_firstNamed h hne
  simp only [preselected, Settings.titles_of_matchers hmatchers]
  by_cases hnone : Settings.existing ((Settings.titled ds).map (·.1)) (s.rememberedTitles parser)
      = []
  · rw [offered, if_pos hnone, ← hdefault]
    exact if_pos (List.isEmpty_iff.2 hnone)
  · rw [offered, if_neg hnone]
    exact if_neg (mt List.isEmpty_iff.1 hnone)

/-! ## Requests -/

/-- A rescan looks for the log when it has chosen what to look for in it. -/
theorem resolve_rescan_eq_bind (s : Session) (settings : Settings) :
    s.resolve settings .rescan
      = ((s.usualParser settings).bind (s.preselected settings)).bind fun selection =>
          s.rememberedLog.bind fun log => s.resolve settings (.scanFile selection log) := by
  unfold resolve
  simp only [bind, Except.bind, pure, Except.pure]
  cases s.usualParser settings with
  | error fault => rfl
  | ok parser =>
    cases s.preselected settings parser with
    | error fault => rfl
    | ok selection => cases s.rememberedLog <;> rfl

theorem resolve_rescanWith_of_none (settings : Settings) (selection : Selection)
    (h : s.log = none) : s.resolve settings (.rescanWith selection) = .error .noLogFile := by
  simp only [resolve, rememberedLog, h, bind, Except.bind]

theorem resolve_rescanWith_of_log (settings : Settings) (selection : Selection)
    (h : s.log = some log) :
    s.resolve settings (.rescanWith selection) = s.resolve settings (.scanFile selection log) := by
  simp only [resolve, rememberedLog, h, bind, Except.bind]

theorem resolve_rescan_of_nil (h : settings.parsers = []) :
    s.resolve settings .rescan = .error .noParsers := by
  have hlacks : s.LacksParser settings := fun parser ds _ hfirst => absurd h hfirst.parsers_ne_nil
  rw [resolve_rescan_eq_bind, usualParser_of_lacks hlacks, Settings.defaultParser, h]
  rfl

/-- Where the parser is empty, the first one is. -/
theorem resolve_rescan_of_empty (h : s.Rescans settings parser []) :
    s.resolve settings .rescan = .error (.noMatchers parser) := by
  have hlacks : settings.Lacks parser (.noMatchers parser) := ⟨rfl, h.firstNamed⟩
  have htitles : settings.titles parser = .error (.noMatchers parser) := by
    rw [Settings.titles, Settings.matchers_eq_error_iff.2 hlacks]
    rfl
  rw [resolve_rescan_eq_bind, h.usualParser]
  simp only [Except.bind, preselected, htitles]

/-- A rescan that finds matchers needs a log. -/
theorem resolve_rescan_of_none (h : s.Rescans settings parser ds) (hne : ds ≠ [])
    (hlog : s.log = none) : s.resolve settings .rescan = .error .noLogFile := by
  rw [resolve_rescan_eq_bind, h.usualParser]
  simp only [Except.bind, preselected_of_firstNamed h.firstNamed hne, rememberedLog, hlog]

/-- A rescan scans what is offered in the remembered log. -/
theorem resolve_rescan_of_log (h : s.Rescans settings parser ds) (hne : ds ≠ [])
    (hlog : s.log = some log) :
    s.resolve settings .rescan
      = s.resolve settings (.scanFile ⟨parser, s.offered parser ds⟩ log) := by
  rw [resolve_rescan_eq_bind, h.usualParser]
  simp only [Except.bind, preselected_of_firstNamed h.firstNamed hne, rememberedLog, hlog]

/-- The log of a request. -/
def logOf (s : Session) : ScanRequest → Option String
  | .rescan => s.log
  | .rescanWith _ => s.log
  | .scanFile _ log => some log

/-- The selection of a request. -/
def Means (s : Session) (settings : Settings) : ScanRequest → Selection → Prop
  | .rescan, selection => ∃ ds, ds ≠ [] ∧ s.Rescans settings selection.parser ds ∧
      selection.matchers = s.offered selection.parser ds
  | .rescanWith given, selection => selection = given
  | .scanFile given _, selection => selection = given

/-- A scan that a request comes to. -/
structure Yields (s : Session) (settings : Settings) (request : ScanRequest) (r : ResolvedScan) :
    Prop where
  log : s.logOf request = some r.log
  selection : s.Means settings request r.selection
  definitions : settings.Selects r.selection r.definitions

/-- The remembered parser does not help, and the first one is empty. -/
def FindsEmpty (s : Session) (settings : Settings) (parser : String) : Prop :=
  s.LacksParser settings ∧ ∃ rest, settings.parsers = (parser, []) :: rest

/-- Why a request comes to nothing. -/
def Fails (s : Session) (settings : Settings) : ScanRequest → SelectionFault → Prop
  | .rescan, .noParsers => settings.parsers = []
  | .rescan, .noMatchers parser => s.FindsEmpty settings parser
  | .rescan, .noLogFile =>
    settings.parsers ≠ [] ∧ (∀ parser, ¬ s.FindsEmpty settings parser) ∧ s.log = none
  | .rescan, .nothingSelected parser => s.log ≠ none ∧
    ∃ ds, ds ≠ [] ∧ s.Rescans settings parser ds ∧
      (∀ title ∈ s.rememberedTitles parser, title ∉ (Settings.titled ds).map (·.1)) ∧
      ∀ d ∈ ds, d.isDefaultSelected = false
  | .rescan, .unknownParser _ => False
  | .rescanWith selection, fault =>
    (s.log = none ∧ fault = .noLogFile) ∨ (s.log ≠ none ∧ settings.Refuses selection fault)
  | .scanFile selection _, fault => settings.Refuses selection fault

theorem resolve_scanFile_eq_ok_iff {r : ResolvedScan} :
    s.resolve settings (.scanFile selection log) = .ok r ↔
      r.selection = selection ∧ r.log = log ∧ settings.Selects selection r.definitions := by
  rw [resolve_scanFile, ← Settings.select_eq_ok_iff_selects]
  obtain ⟨rselection, rlog, definitions⟩ := r
  cases settings.select selection <;>
    simp [Except.map, eq_comm, and_comm, and_left_comm]

theorem resolve_scanFile_eq_error_iff {fault : SelectionFault} :
    s.resolve settings (.scanFile selection log) = .error fault ↔
      settings.Refuses selection fault := by
  rw [resolve_scanFile, ← Settings.select_eq_error_iff]
  cases settings.select selection <;> simp [Except.map]

theorem rescans_nil_iff : s.Rescans settings parser [] ↔ s.FindsEmpty settings parser := by
  constructor
  · intro h
    cases h with
    | remembered _ _ hne => exact absurd rfl hne
    | first hlacks hparsers => exact ⟨hlacks, _, hparsers⟩
  · rintro ⟨hlacks, _, hparsers⟩
    exact .first hlacks hparsers

theorem resolve_rescan_eq_error_iff {fault : SelectionFault} :
    s.resolve settings .rescan = .error fault ↔ s.Fails settings .rescan fault := by
  constructor
  · intro h
    by_cases hnil : settings.parsers = []
    · rw [resolve_rescan_of_nil hnil] at h
      cases h
      exact hnil
    · obtain ⟨parser, ds, hrescans⟩ := s.exists_rescans hnil
      by_cases hne : ds = []
      · subst hne
        rw [resolve_rescan_of_empty hrescans] at h
        cases h
        exact rescans_nil_iff.1 hrescans
      · cases hlog : s.log with
        | none =>
          rw [resolve_rescan_of_none hrescans hne hlog] at h
          cases h
          refine ⟨hnil, fun first hempty => hne ?_, hlog⟩
          exact hrescans.unique (rescans_nil_iff.2 hempty)
        | some log =>
          rw [resolve_rescan_of_log hrescans hne hlog] at h
          obtain ⟨rfl, hnone⟩ := (Settings.refuses_iff_of_firstNamed hrescans.firstNamed hne).1
            (resolve_scanFile_eq_error_iff.1 h)
          exact ⟨by simp [hlog], ds, hne, hrescans, chosen_offered_eq_nil_iff.1 hnone⟩
  · intro h
    cases fault with
    | noParsers => exact resolve_rescan_of_nil h
    | unknownParser parser => exact h.elim
    | noMatchers parser => exact resolve_rescan_of_empty (rescans_nil_iff.2 h)
    | noLogFile =>
      obtain ⟨hnil, hfull, hlog⟩ := h
      obtain ⟨parser, ds, hrescans⟩ := s.exists_rescans hnil
      have hne : ds ≠ [] := by
        rintro rfl
        exact hfull parser (rescans_nil_iff.1 hrescans)
      exact resolve_rescan_of_none hrescans hne hlog
    | nothingSelected parser =>
      obtain ⟨hlog, ds, hne, hrescans, hnone⟩ := h
      obtain ⟨log, hlog⟩ := Option.ne_none_iff_exists'.1 hlog
      rw [resolve_rescan_of_log hrescans hne hlog]
      exact resolve_scanFile_eq_error_iff.2
        ((Settings.refuses_iff_of_firstNamed hrescans.firstNamed hne).2
          ⟨rfl, chosen_offered_eq_nil_iff.2 hnone⟩)

/-- What a rescan scans: what is offered, in the remembered log. -/
theorem resolve_rescan_eq_ok_iff {r : ResolvedScan} :
    s.resolve settings .rescan = .ok r ↔ s.Yields settings .rescan r := by
  constructor
  · intro h
    have hnil : settings.parsers ≠ [] := by
      intro hnil
      rw [resolve_rescan_of_nil hnil] at h
      cases h
    obtain ⟨parser, ds, hrescans⟩ := s.exists_rescans hnil
    by_cases hne : ds = []
    · subst hne
      rw [resolve_rescan_of_empty hrescans] at h
      cases h
    · cases hlog : s.log with
      | none =>
        rw [resolve_rescan_of_none hrescans hne hlog] at h
        cases h
      | some log =>
        rw [resolve_rescan_of_log hrescans hne hlog] at h
        obtain ⟨hselection, rfl, hselects⟩ := resolve_scanFile_eq_ok_iff.1 h
        rw [← hselection] at hselects
        exact ⟨hlog, ⟨ds, hne, by rwa [hselection], by rw [hselection]⟩, hselects⟩
  · rintro ⟨hlog, ⟨ds, hne, hrescans, hoffered⟩, hselects⟩
    rw [resolve_rescan_of_log hrescans hne hlog, ← hoffered]
    exact resolve_scanFile_eq_ok_iff.2 ⟨rfl, rfl, hselects⟩

theorem resolve_eq_ok_iff {request : ScanRequest} {r : ResolvedScan} :
    s.resolve settings request = .ok r ↔ s.Yields settings request r := by
  cases request with
  | rescan => exact resolve_rescan_eq_ok_iff
  | rescanWith selection =>
    cases hlog : s.log with
    | none =>
      rw [resolve_rescanWith_of_none settings selection hlog]
      exact iff_of_false nofun fun h => nomatch hlog.symm.trans h.log
    | some log =>
      rw [resolve_rescanWith_of_log settings selection hlog, resolve_scanFile_eq_ok_iff]
      constructor
      · rintro ⟨rfl, rfl, hselects⟩
        exact ⟨hlog, rfl, hselects⟩
      · rintro ⟨hr, rfl, hselects⟩
        exact ⟨rfl, (Option.some.inj (hlog.symm.trans hr)).symm, hselects⟩
  | scanFile selection log =>
    rw [resolve_scanFile_eq_ok_iff]
    constructor
    · rintro ⟨rfl, rfl, hselects⟩
      exact ⟨rfl, rfl, hselects⟩
    · rintro ⟨hr, rfl, hselects⟩
      exact ⟨rfl, (Option.some.inj hr).symm, hselects⟩

theorem resolve_eq_error_iff {request : ScanRequest} {fault : SelectionFault} :
    s.resolve settings request = .error fault ↔ s.Fails settings request fault := by
  cases request with
  | rescan => exact resolve_rescan_eq_error_iff
  | rescanWith selection =>
    cases hlog : s.log with
    | none =>
      rw [resolve_rescanWith_of_none settings selection hlog, Except.error.injEq, eq_comm]
      simp [Fails, hlog]
    | some log =>
      rw [resolve_rescanWith_of_log settings selection hlog, resolve_scanFile_eq_error_iff]
      simp [Fails, hlog]
  | scanFile selection log => exact resolve_scanFile_eq_error_iff

/-- **What a request comes to.**

Whatever the session remembers and whatever the settings hold, a request comes to a scan
exactly if it has a log and a selection and the selection selects something, and then to
that scan; and it fails with a fault exactly if that fault is due, the log being asked for
in its turn.  A rescan never meets an unknown parser, and every title that it uses is that
of a matcher of its parser. -/
theorem resolution_complete (s : Session) (settings : Settings) (request : ScanRequest) :
    (∀ r, s.resolve settings request = .ok r ↔ s.Yields settings request r) ∧
    (∀ fault, s.resolve settings request = .error fault ↔ s.Fails settings request fault) ∧
    (∀ parser, s.resolve settings .rescan ≠ .error (.unknownParser parser)) ∧
    ∀ r, s.resolve settings .rescan = .ok r →
      ∃ ds, settings.FirstNamed r.selection.parser ds ∧
        ∀ title ∈ r.selection.matchers, title ∈ (Settings.titled ds).map (·.1) := by
  refine ⟨fun r => resolve_eq_ok_iff, fun fault => resolve_eq_error_iff, fun parser h => ?_,
    fun r h => ?_⟩
  · exact resolve_eq_error_iff.1 h
  · obtain ⟨ds, -, hrescans, hoffered⟩ := (resolve_eq_ok_iff.1 h).selection
    rw [hoffered]
    exact ⟨ds, hrescans.firstNamed, fun title => mem_titles_of_mem_offered⟩

/-- The remembered parser is empty by now, and of the titles that are remembered for the
first parser one is gone; the second parser of that name does not count. -/
theorem resolution_complete_fallback :
    ∃ (settings : Settings) (s : Session) (r : ResolvedScan) (one two : Definition),
      settings = ⟨[("a", [one, two]), ("b", []), ("a", [])]⟩ ∧
      s = { parser := some "b", matchers := [("a", ["gone", "Matcher 1"])], log := some "l",
            ordered := List.pairwise_singleton _ _ } ∧
      r = { selection := ⟨"a", ["Matcher 1"]⟩, log := "l",
            definitions := [{ two with title := some "Matcher 1" }] } ∧
      s.resolve settings .rescan = .ok r ∧ s.Yields settings .rescan r ∧
      ∃ ds, settings.FirstNamed "a" ds ∧
        ∀ title ∈ ["Matcher 1"], title ∈ (Settings.titled ds).map (·.1) := by
  let one : Definition := { title := some "one" }
  let two : Definition := { source := some "two" }
  let settings : Settings := ⟨[("a", [one, two]), ("b", []), ("a", [])]⟩
  let s : Session :=
    { parser := some "b", matchers := [("a", ["gone", "Matcher 1"])], log := some "l",
      ordered := List.pairwise_singleton _ _ }
  let r : ResolvedScan :=
    { selection := ⟨"a", ["Matcher 1"]⟩, log := "l",
      definitions := [{ two with title := some "Matcher 1" }] }
  have hresolve : s.resolve settings .rescan = .ok r := by decide +kernel
  obtain ⟨hyields, -, -, htitles⟩ := resolution_complete s settings .rescan
  exact ⟨settings, s, r, one, two, rfl, rfl, rfl, hresolve, (hyields r).1 hresolve,
    htitles r hresolve⟩

end Session

end LogProblems
