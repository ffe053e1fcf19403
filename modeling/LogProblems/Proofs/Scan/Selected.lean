import LogProblems.Proofs.Scan.Partition
import LogProblems.Proofs.Settings.Selection

/-!
# Scanners of selected matchers

A selection hands on the definitions that it names, each with the title that it has among
the definitions of its parser.  With that title a definition compiles at any place to what
it compiles to at its own, and its faults are named as they are named there.  So a scanner
of selected definitions is cut out of the scanner of the whole parser by the titles of its
matchers and faults, though the places shift.

Titles need not be unique: a title may be declared twice, or be the one that an untitled
definition has for its place.  A selection names all that bear a title, in both scanners.

* `compile_titledAt`: a definition that carries its title;
* `title_of_matcher?`, `matcher_of_exclusion?`, `matcher_of_warning?`: whom a verdict names;
* `select_titledAt`: what a selection hands on;
* `selected_compile_in_place`: the two scanners.
-/

set_option autoImplicit false

namespace LogProblems

open LogProblems.Matcher

/-! ## Definitions that carry their titles -/

/-- With its title, a definition compiles at any place as it does at its own. -/
theorem Matcher.compile_titledAt (d : Definition) (place place' : Nat) :
    compile (d.titledAt place) place' = compile d place := rfl

namespace Verdict

variable {strict : Bool} {place : Nat} {d : Definition}

theorem of_titledAt (strict : Bool) (place place' : Nat) (d : Definition) :
    Verdict.of strict place' (d.titledAt place) = Verdict.of strict place d := by
  unfold Verdict.of
  rw [compile_titledAt]

/-! ## Whom a verdict names -/

theorem title_of_matcher? {m : Compiled} (h : (Verdict.of strict place d).matcher? = some m) :
    m.title = d.titleAt place := by
  have hnamed := (becomes strict place d).named
  rw [← getLeft?_fate, Sum.getLeft?_eq_some_iff] at h
  rw [h] at hnamed
  exact hnamed

theorem matcher_of_exclusion? {fault : Fault}
    (h : (Verdict.of strict place d).exclusion? = some fault) :
    fault.matcher = d.titleAt place := by
  have hnamed := (becomes strict place d).named
  rw [← getRight?_fate, Sum.getRight?_eq_some_iff] at h
  rw [h] at hnamed
  exact hnamed

/-- A warning is about a matcher that is kept, and names its title. -/
theorem matcher_of_warning? {fault : Fault}
    (h : (Verdict.of strict place d).warning? = some fault) :
    fault.matcher = d.titleAt place := by
  rw [warning?_of, Option.map_eq_some_iff] at h
  obtain ⟨m, hm, rfl⟩ := h
  exact title_of_matcher? (Option.filter_eq_some_iff.1 hm).1

end Verdict

/-! ## Lists that are cut by names -/

/-- What a function gives for the elements that are picked can be picked from all that it
gives, if it tells of each result whether it was given for such an element. -/
theorem filterMap_filter_of_named {α β : Type} {p : α → Bool} {q : β → Bool} {f : α → Option β}
    (h : ∀ a b, f a = some b → q b = p a) (as : List α) :
    (as.filter p).filterMap f = (as.filterMap f).filter q := by
  rw [List.filterMap_filter, List.filter_filterMap]
  refine List.filterMap_congr fun a _ => ?_
  cases hf : f a with
  | none => simp
  | some b =>
    have hnamed := h a b hf
    cases hp : p a with
    | false => simp [Option.filter, hnamed, hp]
    | true => simp [Option.filter, hnamed, hp]

theorem Scanner.verdicts_titledAt (strict : Bool) (place : Nat) (xs : List (Definition × Nat)) :
    verdicts strict place (xs.map fun x => x.1.titledAt x.2)
      = xs.map fun x => Verdict.of strict x.2 x.1 := by
  induction xs generalizing place with
  | nil => rfl
  | cons x rest ih =>
    rw [List.map_cons, List.map_cons, verdicts, Verdict.of_titledAt, ih]

/-! ## What a selection hands on -/

namespace Settings

variable {settings : Settings} {selection : Selection} {definitions : List Definition}

theorem select_titledAt (h : settings.select selection = .ok definitions) :
    ∃ ds, settings.matchers selection.parser = .ok ds ∧
      definitions = (ds.zipIdx.filter fun x =>
        selection.matchers.contains (x.1.titleAt x.2)).map fun x => x.1.titledAt x.2 := by
  obtain ⟨ds, hds, -, hdefinitions⟩ := select_eq_ok_iff.1 h
  refine ⟨ds, hds, ?_⟩
  rw [hdefinitions, chosen, titled_eq_map, List.filter_map, List.map_map]
  rfl

end Settings

/-- **To select and then compile is to compile and then select.**

Whenever a selection selects something, the scanner of the selected definitions is the
scanner of all definitions of the parser, cut by the titles that the selection names: it
has the same matchers with these titles, the same reasons for leaving definitions out and
the same warnings, each in the same order. -/
theorem selected_compile_in_place {settings : Settings} {selection : Selection}
    {definitions : List Definition} (h : settings.select selection = .ok definitions) :
    ∃ ds, settings.matchers selection.parser = .ok ds ∧
      ∀ options : ScanOptions,
        (Scanner.ofDefinitions definitions options).matchers
          = (Scanner.ofDefinitions ds options).matchers.filter
              (fun m => selection.matchers.contains m.title) ∧
        (Scanner.ofDefinitions definitions options).excluded
          = (Scanner.ofDefinitions ds options).excluded.filter
              (fun fault => selection.matchers.contains fault.matcher) ∧
        (Scanner.ofDefinitions definitions options).warnings
          = (Scanner.ofDefinitions ds options).warnings.filter
              (fun fault => selection.matchers.contains fault.matcher) := by
  obtain ⟨ds, hds, rfl⟩ := Settings.select_titledAt h
  refine ⟨ds, hds, fun options => ?_⟩
  unfold Scanner.ofDefinitions
  simp only [Scanner.verdicts_titledAt, Scanner.verdicts_eq options.strictSeverity 0 ds,
    List.filterMap_map]
  refine ⟨?_, ?_, ?_⟩
  · exact filterMap_filter_of_named (fun x m hm => by rw [Verdict.title_of_matcher? hm]) _
  · exact filterMap_filter_of_named (fun x m hm => by rw [Verdict.matcher_of_exclusion? hm]) _
  · exact filterMap_filter_of_named (fun x m hm => by rw [Verdict.matcher_of_warning? hm]) _

/-- Of a definition that is not selected, one that does not compile, one with the title
that the second has for its place, and one that has no title, the last three are selected,
and each moves up one place. -/
theorem selected_compile_in_place_shifted :
    ∃ (settings : Settings) (definitions : List Definition),
      settings.select ⟨"p", ["Matcher 3", "Matcher 1", "gone"]⟩ = .ok definitions ∧
      definitions.length = 3 ∧
      (Scanner.ofDefinitions definitions {}).matchers.map (·.title) = ["Matcher 1", "Matcher 3"] ∧
      (Scanner.ofDefinitions definitions {}).excluded = [.invalidRegex "Matcher 1" "("] ∧
      (Scanner.ofDefinitions definitions {}).warnings = [.noSeveritySource "Matcher 3"] := by
  let ds : List Definition :=
    [{ title := some "a", pattern := some (.one { regexp := some "^A$" }) },
      { pattern := some (.one { regexp := some "(" }) },
      { title := some "Matcher 1", severity := some "error",
        pattern := some (.one { regexp := some "^B$" }) },
      { pattern := some (.one { regexp := some "^C$" }) }]
  have hselect : ∃ definitions, Settings.select ⟨[("p", ds)]⟩
      ⟨"p", ["Matcher 3", "Matcher 1", "gone"]⟩ = .ok definitions ∧ definitions.length = 3 :=
    ⟨_, rfl, rfl⟩
  obtain ⟨definitions, hdefinitions, hlength⟩ := hselect
  obtain ⟨ds', hds', hscanner⟩ := selected_compile_in_place hdefinitions
  obtain rfl : ds = ds' := Except.ok.inj hds'
  obtain ⟨hmatchers, hexcluded, hwarnings⟩ := hscanner {}
  refine ⟨_, definitions, hdefinitions, hlength, ?_, ?_, ?_⟩
  · rw [hmatchers]
    decide +kernel
  · rw [hexcluded]
    decide +kernel
  · rw [hwarnings]
    decide +kernel

end LogProblems
