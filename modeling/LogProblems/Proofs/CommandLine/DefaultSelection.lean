import LogProblems.Proofs.CommandLine.Outcome
import LogProblems.Proofs.Settings.Resolution

/-!
# The default selection

A selection names matchers by their titles, and titles need not be unique: one may be
declared twice, or be the one that an untitled matcher has for its place.  So the default
selection returns the matchers that are selected by default, and with them all that share a
title with one of these.  The listing of a parser has a star at the very same matchers.

* `select_of_firstNamed`: what titles return;
* `namedByDefault_eq_nil_iff`: defaults that return nothing;
* `titledAll_eq_iff`: titles that return what they were taken from;
* `parserListing_of_firstNamed`: the listing;
* `default_selection_returns`: all of it.
-/

set_option autoImplicit false

namespace LogProblems

open LogProblems.Matcher

namespace Settings

/-! ## Matchers and their places -/

/-- Definitions with the titles that they have at their places. -/
def titledAll (xs : List (Definition × Nat)) : List Definition :=
  xs.map fun x => x.1.titledAt x.2

/-- The matchers of a parser that bear one of the titles. -/
def bearing (ds : List Definition) (titles : List String) : List (Definition × Nat) :=
  ds.zipIdx.filter fun x => titles.contains (x.1.titleAt x.2)

/-- The matchers of a parser that are selected by default. -/
def defaultOnes (ds : List Definition) : List (Definition × Nat) :=
  ds.zipIdx.filter fun x => x.1.isDefaultSelected

/-- The title is that of a matcher that is selected by default. -/
def IsDefaultTitle (ds : List Definition) (title : String) : Prop :=
  ∃ x ∈ ds.zipIdx, x.1.isDefaultSelected = true ∧ x.1.titleAt x.2 = title

instance (ds : List Definition) (title : String) : Decidable (IsDefaultTitle ds title) :=
  inferInstanceAs (Decidable (∃ x ∈ ds.zipIdx, _))

/-- The matchers of a parser whose title is that of one that is selected by default. -/
def namedByDefault (ds : List Definition) : List (Definition × Nat) :=
  ds.zipIdx.filter fun x => IsDefaultTitle ds (x.1.titleAt x.2)

/-- A matcher that is not selected by default shares its title with one that is. -/
def SharesDefaultTitle (ds : List Definition) : Prop :=
  ∃ x ∈ ds.zipIdx, x.1.isDefaultSelected = false ∧ IsDefaultTitle ds (x.1.titleAt x.2)

/-- What a selection returns, which is nothing where it fails. -/
def returned (settings : Settings) (selection : Selection) : List Definition :=
  (settings.select selection).toOption.getD []

variable {settings : Settings} {parser : String} {ds : List Definition} {titles : List String}

theorem chosen_eq_map (ds : List Definition) (titles : List String) :
    chosen ds titles = (bearing ds titles).map fun x => (x.1.titleAt x.2, x.1) := by
  rw [chosen, bearing, titled_eq_map, List.filter_map]
  rfl

theorem mem_titles_iff {title : String} :
    title ∈ (titled ds).map (·.1) ↔ ∃ x ∈ ds.zipIdx, x.1.titleAt x.2 = title := by
  rw [titled_eq_map, List.map_map, List.mem_map]
  rfl

theorem mem_defaults_iff {title : String} : title ∈ defaults ds ↔ IsDefaultTitle ds title := by
  simp only [defaults, titled_eq_map, List.filter_map, List.map_map, List.mem_map,
    List.mem_filter, IsDefaultTitle, Function.comp_apply, and_assoc]

/-! ## What titles return -/

/-- Titles return the matchers that bear them, in the order of the settings. -/
theorem select_of_firstNamed (h : settings.FirstNamed parser ds) (hne : ds ≠ [])
    (titles : List String) :
    settings.select ⟨parser, titles⟩
      = if bearing ds titles = [] then .error (.nothingSelected parser)
        else .ok (titledAll (bearing ds titles)) := by
  have hmatchers : settings.matchers parser = .ok ds := matchers_eq_ok_iff.2 ⟨h, hne⟩
  by_cases hnone : bearing ds titles = []
  · rw [if_pos hnone, select_eq_error_iff, refuses_iff_of_firstNamed h hne, chosen_eq_map, hnone]
    exact ⟨rfl, rfl⟩
  · rw [if_neg hnone, select_eq_ok_iff]
    refine ⟨ds, hmatchers, ?_, ?_⟩
    · rw [chosen_eq_map]
      exact mt List.map_eq_nil_iff.1 hnone
    · rw [chosen_eq_map, List.map_map]
      rfl

theorem returned_of_firstNamed (h : settings.FirstNamed parser ds) (hne : ds ≠ [])
    (titles : List String) :
    settings.returned ⟨parser, titles⟩ = titledAll (bearing ds titles) := by
  rw [returned, select_of_firstNamed h hne]
  by_cases hnone : bearing ds titles = []
  · rw [if_pos hnone, hnone]
    rfl
  · rw [if_neg hnone]
    rfl

theorem bearing_congr {titles' : List String}
    (h : ∀ title ∈ (titled ds).map (·.1), title ∈ titles ↔ title ∈ titles') :
    bearing ds titles = bearing ds titles' := by
  refine List.filter_congr fun x hx => ?_
  rw [Bool.eq_iff_iff, List.contains_iff_mem, List.contains_iff_mem]
  exact h _ (mem_titles_iff.2 ⟨x, hx, rfl⟩)

theorem bearing_titles (ds : List Definition) :
    bearing ds ((titled ds).map (·.1)) = ds.zipIdx := by
  refine List.filter_eq_self.2 fun x hx => ?_
  rw [List.contains_iff_mem]
  exact mem_titles_iff.2 ⟨x, hx, rfl⟩

/-! ## What the default titles return -/

theorem bearing_defaults (ds : List Definition) : bearing ds (defaults ds) = namedByDefault ds := by
  refine List.filter_congr fun x _ => ?_
  rw [Bool.eq_iff_iff, List.contains_iff_mem, mem_defaults_iff, decide_eq_true_iff]

theorem namedByDefault_eq_nil_iff :
    namedByDefault ds = [] ↔ ¬ ∃ d ∈ ds, d.isDefaultSelected = true := by
  have hexist : ∀ title ∈ defaults ds, title ∈ (titled ds).map (·.1) := by
    intro title htitle
    obtain ⟨x, hx, -, hbears⟩ := mem_defaults_iff.1 htitle
    exact mem_titles_iff.2 ⟨x, hx, hbears⟩
  have hchosen : chosen ds (defaults ds) = [] ↔ namedByDefault ds = [] := by
    rw [chosen_eq_map, bearing_defaults, List.map_eq_nil_iff]
  rw [← hchosen, chosen_eq_nil_iff_of_subset hexist, defaults_eq_nil_iff]
  simp

/-- A matcher that is selected by default bears a default title. -/
theorem defaultOnes_sublist (ds : List Definition) :
    (defaultOnes ds).Sublist (namedByDefault ds) := by
  have hsame : defaultOnes ds = (namedByDefault ds).filter fun x => x.1.isDefaultSelected := by
    rw [namedByDefault, List.filter_filter]
    refine List.filter_congr fun x hx => ?_
    rw [Bool.eq_iff_iff, Bool.and_eq_true, decide_eq_true_iff]
    exact ⟨fun hdefault => ⟨hdefault, x, hx, hdefault, rfl⟩, And.left⟩
  rw [hsame]
  exact List.filter_sublist

/-- The default titles return what they were taken from, unless another matcher shares one. -/
theorem titledAll_eq_iff :
    titledAll (namedByDefault ds) = titledAll (defaultOnes ds) ↔ ¬ SharesDefaultTitle ds := by
  constructor
  · rintro h ⟨x, hx, hnot, hnamed⟩
    have hlength : (defaultOnes ds).length = (namedByDefault ds).length := by
      simpa [titledAll] using (congrArg List.length h).symm
    have hmem : x ∈ defaultOnes ds := by
      rw [(defaultOnes_sublist ds).eq_of_length hlength]
      exact List.mem_filter.2 ⟨hx, decide_eq_true hnamed⟩
    rw [(List.mem_filter.1 hmem).2] at hnot
    cases hnot
  · intro hshares
    have hsame : namedByDefault ds = defaultOnes ds := by
      refine List.filter_congr fun x hx => ?_
      rw [Bool.eq_iff_iff, decide_eq_true_iff]
      constructor
      · intro hnamed
        by_contra hnot
        exact hshares ⟨x, hx, Bool.not_eq_true _ ▸ hnot, hnamed⟩
      · exact fun hdefault => ⟨x, hx, hdefault, rfl⟩
    rw [hsame]

end Settings

namespace CommandLine

open Settings

variable {settings : Settings} {parser : String} {ds : List Definition}

/-! ## The listing -/

/-- The row of a matcher in a listing, with a star if it is marked. -/
def listingRow (marked : List (Definition × Nat)) (x : Definition × Nat) : String :=
  (if x ∈ marked then "  * " else "    ") ++ x.1.titleAt x.2

/-- The lines of a parser with matchers: its name and a row for each of them. -/
def listingLines (parser : String) (ds : List Definition) (marked : List (Definition × Nat)) :
    List String :=
  parser :: ds.zipIdx.map (listingRow marked)

theorem parserListing_of_firstNamed (h : settings.FirstNamed parser ds) (hne : ds ≠ []) :
    parserListing settings parser
      = String.join ((listingLines parser ds (namedByDefault ds)).map (· ++ "\n")) := by
  have hrows : ((titled ds).map (·.1)).map
        (fun title => (if (defaults ds).contains title then "  * " else "    ") ++ title)
      = ds.zipIdx.map (listingRow (namedByDefault ds)) := by
    rw [titled_eq_map, List.map_map, List.map_map]
    refine List.map_congr_left fun x hx => ?_
    have hmarked : (defaults ds).contains (x.1.titleAt x.2) = true ↔ x ∈ namedByDefault ds := by
      rw [List.contains_iff_mem, mem_defaults_iff, namedByDefault, List.mem_filter,
        decide_eq_true_iff, and_iff_right hx]
    simp only [Function.comp_apply, listingRow, hmarked]
  simp only [parserListing, defaultSelection_of_firstNamed h hne,
    titles_of_matchers (matchers_eq_ok_iff.2 ⟨h, hne⟩), hrows, listingLines]

theorem run_list {files : FileTree} {path : String} (colored : Bool)
    (hload : Settings.load files path = .ok settings) (hne : settings.parsers ≠ []) :
    (Command.list path).run files colored
      = { output := String.join (settings.parsers.map fun e => parserListing settings e.1),
          files } := by
  have hnames : settings.parserNames = .ok (settings.parsers.map (·.1)) := by
    rw [parserNames, if_neg (mt List.isEmpty_iff.1 hne)]
  simp only [Command.run, loadSettings_eq_ok_iff.2 hload, hnames, List.map_map]
  rfl

/-- **What the default selection returns.**

For every parser that has matchers, the titles of the default selection return, in the order
of the settings, the definitions whose title is that of a matcher selected by default, and
they fail exactly if there is no such matcher.  They return the matchers selected by default
and no others exactly if no other matcher shares a title with one of these.  In the listing
of the parser the stars stand at the definitions that are returned.  All titles of the parser
return all its definitions; and of the titles of a selection only those that exist count,
in whatever order and however often they are given. -/
theorem default_selection_returns (h : settings.FirstNamed parser ds) (hne : ds ≠ []) :
    ∃ selection titles,
      settings.defaultSelection parser = .ok selection ∧
      settings.titles parser = .ok titles ∧
      settings.select selection
        = (if ∃ d ∈ ds, d.isDefaultSelected = true then .ok (titledAll (namedByDefault ds))
          else .error (.nothingSelected parser)) ∧
      (settings.returned selection = titledAll (defaultOnes ds) ↔ ¬ SharesDefaultTitle ds) ∧
      (∃ marked : List (Definition × Nat), marked.Sublist ds.zipIdx ∧
        settings.returned selection = titledAll marked ∧
        parserListing settings parser
          = String.join ((listingLines parser ds marked).map (· ++ "\n"))) ∧
      (∀ files path colored, Settings.load files path = .ok settings →
        (Command.list path).run files colored
          = { output := String.join (settings.parsers.map fun e => parserListing settings e.1),
              files }) ∧
      settings.select ⟨parser, titles⟩ = .ok (titledAll ds.zipIdx) ∧
      ∀ given given' : List String,
        (∀ title ∈ titles, title ∈ given ↔ title ∈ given') →
          settings.select ⟨parser, given⟩ = settings.select ⟨parser, given'⟩ := by
  have hreturned : settings.returned ⟨parser, defaults ds⟩ = titledAll (namedByDefault ds) := by
    rw [returned_of_firstNamed h hne, bearing_defaults]
  refine ⟨⟨parser, defaults ds⟩, (titled ds).map (·.1), defaultSelection_of_firstNamed h hne,
    titles_of_matchers (matchers_eq_ok_iff.2 ⟨h, hne⟩), ?_, ?_, ?_, ?_, ?_, ?_⟩
  · rw [select_of_firstNamed h hne, bearing_defaults]
    simp only [namedByDefault_eq_nil_iff, ite_not]
  · rw [hreturned, titledAll_eq_iff]
  · exact ⟨namedByDefault ds, List.filter_sublist, hreturned, parserListing_of_firstNamed h hne⟩
  · exact fun files path colored hload => run_list colored hload h.parsers_ne_nil
  · have hsome : ds.zipIdx ≠ [] := mt List.zipIdx_eq_nil_iff.1 hne
    rw [select_of_firstNamed h hne, bearing_titles, if_neg hsome]
  · intro given given' hsame
    rw [select_of_firstNamed h hne, select_of_firstNamed h hne, bearing_congr hsame]

/-- Settings with three matchers, of which the first is selected by default. -/
def sharedTitles : List Definition :=
  [{}, { title := some "Matcher 0", defaultSelected := some false },
    { title := some "b", defaultSelected := some false }]

theorem sharesDefaultTitle_sharedTitles : SharesDefaultTitle sharedTitles :=
  ⟨(_, 1), List.mem_cons_of_mem _ List.mem_cons_self, rfl,
    ⟨(_, 0), List.mem_cons_self, rfl, by decide +kernel⟩⟩

/-- The title that the first matcher has for its place is declared by the second one, which is
not selected by default: it is returned and has a star all the same. -/
theorem default_selection_returns_shared :
    ∃ (files : FileTree) (settings : Settings) (selection : Selection) (ds : List Definition),
      settings.FirstNamed "p" ds ∧ ds ≠ [] ∧
      ds.map (·.isDefaultSelected) = [true, false, false] ∧
      Settings.load files "s" = .ok settings ∧
      settings.defaultSelection "p" = .ok selection ∧
      (settings.returned selection).map (·.title) = [some "Matcher 0", some "Matcher 0"] ∧
      settings.returned selection ≠ titledAll (defaultOnes ds) ∧
      settings.select ⟨"p", ["b", "gone", "b"]⟩ = settings.select ⟨"p", ["b"]⟩ ∧
      (Command.list "s").run files false
        = { output := "p\n  * Matcher 0\n  * Matcher 0\n    b\n", files } := by
  let text : String :=
    "\x7b\"parsers\":\x7b\"p\":[\x7b\x7d,"
      ++ "\x7b\"title\":\"Matcher 0\",\"defaultSelected\":false\x7d,"
      ++ "\x7b\"title\":\"b\",\"defaultSelected\":false\x7d]\x7d\x7d"
  let settings : Settings := ⟨[("p", sharedTitles)]⟩
  let files := smallFiles text none
  have hfirst : settings.FirstNamed "p" sharedTitles := firstNamed_of_cons rfl
  have hne : sharedTitles ≠ [] := List.cons_ne_nil _ _
  have hload : Settings.load files "s" = .ok settings :=
    load_smallFiles text none (by decide +kernel)
  obtain ⟨selection, titles, hselection, htitles, hselect, hexact, -, hlist, -, hsame⟩ :=
    default_selection_returns hfirst hne
  have hpresent : settings.titles "p" = .ok ["Matcher 0", "Matcher 0", "b"] := by decide +kernel
  obtain rfl : titles = ["Matcher 0", "Matcher 0", "b"] :=
    Except.ok.inj (htitles.symm.trans hpresent)
  refine ⟨files, settings, selection, sharedTitles, hfirst, hne, by decide +kernel, hload,
    hselection, ?_, fun heq => hexact.1 heq sharesDefaultTitle_sharedTitles,
    hsame _ _ (by simp), ?_⟩
  · rw [returned, hselect]
    decide +kernel
  · rw [hlist files "s" false hload]
    congr 1

end CommandLine

end LogProblems
