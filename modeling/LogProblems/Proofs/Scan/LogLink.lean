import LogProblems.Proofs.Matcher.LogLink
import LogProblems.Proofs.Scan.Partition

/-!
# Scans of definitions that point at the log

Where all problems point at the scanned log, a scan does not depend on what the definitions
tell of files and positions, nor on where the workspace is.  Two such lists of definitions
that agree in the rest have the same faults and give the same scans, and all that they
report is filed under the log.

* `alike_of_unlocated`: matchers that differ in their locations answer alike;
* `of_unlocated`: the verdict on a definition does not depend on its locations;
* `path_of_linksToLog`: reports are filed under the log;
* `log_links_ignore_locations`: two scanners.
-/

set_option autoImplicit false

namespace LogProblems

open LogProblems.Matcher

/-! ## Matchers that point at the log -/

namespace Matcher

variable {m m' : Compiled} {context context' : Context}

theorem pathMode_of_linksToLog {d : Definition} {place : Nat} (hd : d.linksToLog = true)
    (h : compile d place = .ok m) : m.pathMode = .logFile := by
  obtain ⟨_, _, _, rfl⟩ := compile_eq_ok_iff.1 h
  exact if_pos hd

/-- Matchers that point at the log and differ in their locations only answer alike, wherever
the workspace of each is. -/
theorem Compiled.alike_of_unlocated (hmode : m.pathMode = .logFile)
    (h : m'.unlocated = m.unlocated) (hlog : context'.logPath = context.logPath) :
    Alike context context' m m' := by
  have hmode' : m'.pathMode = .logFile := (congrArg Compiled.pathMode h).trans hmode
  constructor
  · intro s _ line number
    calc s.advance m' line number context'
        = s.advance m'.unlocated line number context :=
          (State.advance_unlocated hmode' hlog.symm s line number).symm
      _ = s.advance m.unlocated line number context := by rw [h]
      _ = s.advance m line number context := State.advance_unlocated hmode rfl s line number
  · intro s
    have hflush : s.flush m'.unlocated = s.flush m.unlocated := by rw [h]
    exact hflush

end Matcher

namespace Verdict

/-- The verdict with the matcher without its locations. -/
def unlocated : Verdict → Verdict
  | active m => active m.unlocated
  | warned m fault => warned m.unlocated fault
  | excluded fault => excluded fault

theorem matcher?_unlocated (v : Verdict) :
    v.unlocated.matcher? = v.matcher?.map Compiled.unlocated := by
  cases v <;> rfl

theorem exclusion?_unlocated (v : Verdict) : v.unlocated.exclusion? = v.exclusion? := by
  cases v <;> rfl

theorem warning?_unlocated (v : Verdict) : v.unlocated.warning? = v.warning? := by
  cases v <;> rfl

theorem of_unlocated {d d' : Definition} (hd : d.linksToLog = true)
    (h : d'.unlocated = d.unlocated) (strict : Bool) (place : Nat) :
    (Verdict.of strict place d').unlocated = (Verdict.of strict place d).unlocated := by
  have hd' : d'.linksToLog = true := (congrArg Definition.linksToLog h).trans hd
  have hcompiled : (compile d' place).map Compiled.unlocated
      = (compile d place).map Compiled.unlocated := by
    rw [← compile_unlocated hd', h, compile_unlocated hd]
  unfold Verdict.of
  rcases error_or_ok_of_map_eq hcompiled with ⟨fault, hm, hm'⟩ | ⟨m, m', hm, hm', hsame⟩
  · rw [hm, hm']
  · have hlacks : m'.lacksSeveritySource = m.lacksSeveritySource := by
      show m'.unlocated.lacksSeveritySource = m.unlocated.lacksSeveritySource
      rw [hsame]
    have htitle : m'.title = m.title := by
      show m'.unlocated.title = m.unlocated.title
      rw [hsame]
    simp only [hm, hm', hlacks, htitle]
    split
    · split
      · rfl
      · exact congrArg (Verdict.warned · _) hsame
    · exact congrArg Verdict.active hsame

end Verdict

namespace Scanner

variable {ds ds' : List Definition} {options : ScanOptions}

theorem verdicts_unlocated (strict : Bool) (hlinks : ∀ d ∈ ds, d.linksToLog = true)
    (hsame : ds'.map Definition.unlocated = ds.map Definition.unlocated) (place : Nat) :
    (verdicts strict place ds').map Verdict.unlocated
      = (verdicts strict place ds).map Verdict.unlocated := by
  have hpairs := (List.forall₂_and_left _ _).2 ⟨hlinks, forall₂_of_map_eq hsame⟩
  clear hlinks hsame
  induction hpairs generalizing place with
  | nil => rfl
  | cons hhead _ ih =>
    rw [verdicts, verdicts, List.map_cons, List.map_cons, ih,
      Verdict.of_unlocated hhead.1 hhead.2]

theorem filterMap_verdicts_unlocated {β : Type} {f g : Verdict → Option β}
    (hfg : ∀ v : Verdict, g v.unlocated = f v) (strict : Bool)
    (hlinks : ∀ d ∈ ds, d.linksToLog = true)
    (hsame : ds'.map Definition.unlocated = ds.map Definition.unlocated) :
    (verdicts strict 0 ds').filterMap f = (verdicts strict 0 ds).filterMap f := by
  have hg : f = g ∘ Verdict.unlocated := funext fun v => (hfg v).symm
  rw [hg, ← List.filterMap_map, ← List.filterMap_map, verdicts_unlocated strict hlinks hsame]

/-- The matchers of definitions that point at the log and differ in their locations only
differ in their locations only. -/
theorem matchers_unlocated (root : Option String) (hlinks : ∀ d ∈ ds, d.linksToLog = true)
    (hsame : ds'.map Definition.unlocated = ds.map Definition.unlocated) :
    (ofDefinitions ds' { options with workspaceRoot := root }).matchers.map Compiled.unlocated
      = (ofDefinitions ds options).matchers.map Compiled.unlocated := by
  unfold ofDefinitions
  rw [List.map_filterMap, List.map_filterMap]
  exact filterMap_verdicts_unlocated Verdict.matcher?_unlocated _ hlinks hsame

theorem scan_unlocated (root : Option String) (hlinks : ∀ d ∈ ds, d.linksToLog = true)
    (hsame : ds'.map Definition.unlocated = ds.map Definition.unlocated)
    (cancelled : Nat → Bool) (log : LogInput) :
    (ofDefinitions ds' { options with workspaceRoot := root }).scan cancelled log
      = (ofDefinitions ds options).scan cancelled log := by
  have hmode : ∀ m ∈ (ofDefinitions ds options).matchers, m.pathMode = .logFile := by
    intro m hm
    obtain ⟨d, hd, place, hcompile⟩ := exists_compile_of_mem_matchers hm
    exact pathMode_of_linksToLog (hlinks d hd) hcompile
  have hpairs := (List.forall₂_and_left _ _).2
    ⟨hmode, forall₂_of_map_eq (matchers_unlocated root hlinks hsame)⟩
  refine scan_of_alike (hpairs.imp fun m m' h => ?_) cancelled
  refine Compiled.alike_of_unlocated h.1 h.2 ?_
  cases log <;> rfl

/-! ## What is filed under the log -/

theorem exists_read_of_scan {s : Scanner} {cancelled : Nat → Bool} {log : LogInput}
    {output : ScanOutput} (h : s.scan cancelled log = .ok output) :
    ∃ lines, log.read = .ok lines := by
  cases log with
  | lines lines => exact ⟨lines, rfl⟩
  | octets octets => exact ⟨linesOfOctets octets, rfl⟩
  | file files path =>
    cases hread : files.read path with
    | ok octets => exact ⟨linesOfOctets octets, by rw [LogInput.read, hread]; rfl⟩
    | error fault =>
      simp only [scan, scanFile, hread] at h
      cases fault with
      | isDirectory =>
        simp only at h
        split at h <;> cases h
      | _ => cases h

/-- What definitions report that point at the log is filed under the log. -/
theorem path_of_linksToLog (hlinks : ∀ d ∈ ds, d.linksToLog = true) {cancelled : Nat → Bool}
    {log : LogInput} {output : ScanOutput}
    (h : (ofDefinitions ds options).scan cancelled log = .ok output) :
    ∀ path ∈ output.listing.paths,
      path = (log.contextIn (ofDefinitions ds options).context).logFile := by
  obtain ⟨lines, hread⟩ := exists_read_of_scan h
  obtain ⟨_, hscan⟩ := @exists_scan_allOrNothing ds options _ _ hread cancelled
  obtain ⟨rfl, -⟩ := (hscan.ok_iff output).1 h
  intro path hpath
  rw [whole, Listing.mem_paths_ofEmissions] at hpath
  obtain ⟨e, he, rfl⟩ := hpath
  obtain ⟨m, hm, hrounds⟩ := List.mem_flatMap.1 ((Scan.flatten_lineUp_perm _ _ _).mem_iff.1 he)
  obtain ⟨d, hd, place, hcompile⟩ := exists_compile_of_mem_matchers hm
  have hmode := pathMode_of_linksToLog (hlinks d hd) hcompile
  refine State.forall_mem_rounds (P := fun e => e.path = _) (compile_lawful hcompile) ?_ 0 lines e
    hrounds
  intro hits hne
  exact Compiled.gathered_path_of_logFile hmode hne

end Scanner

/-- **In the log, what points elsewhere does not matter.**

If all definitions point at the log, then two lists of definitions that differ only in what
they tell of files and positions, though they name the same groups, have the same reasons
for leaving definitions out and the same warnings, and give the same scan of every log,
wherever the workspace of each is.  All that is reported is filed under the path of the log,
or under the placeholder where the log has none. -/
theorem log_links_ignore_locations {ds ds' : List Definition}
    (hlinks : ∀ d ∈ ds, d.linksToLog = true)
    (hsame : ds'.map Definition.unlocated = ds.map Definition.unlocated)
    (options : ScanOptions) (root : Option String) :
    (Scanner.ofDefinitions ds' { options with workspaceRoot := root }).excluded
      = (Scanner.ofDefinitions ds options).excluded ∧
    (Scanner.ofDefinitions ds' { options with workspaceRoot := root }).warnings
      = (Scanner.ofDefinitions ds options).warnings ∧
    ∀ cancelled log,
      (Scanner.ofDefinitions ds' { options with workspaceRoot := root }).scan cancelled log
        = (Scanner.ofDefinitions ds options).scan cancelled log ∧
      ∀ output, (Scanner.ofDefinitions ds options).scan cancelled log = .ok output →
        ∀ path ∈ output.listing.paths,
          path = (log.contextIn { logPath := options.logPath }).logFile := by
  refine ⟨?_, ?_, fun cancelled log => ⟨?_, fun output h path hpath => ?_⟩⟩
  · exact Scanner.filterMap_verdicts_unlocated Verdict.exclusion?_unlocated _ hlinks hsame
  · exact Scanner.filterMap_verdicts_unlocated Verdict.warning?_unlocated _ hlinks hsame
  · exact Scanner.scan_unlocated root hlinks hsame cancelled log
  · rw [Scanner.path_of_linksToLog hlinks h path hpath]
    cases log <;> rfl

/-- Two definitions that agree on no file and no line: one reads both from the match, the
other takes them from other groups, counts from zero, joins paths to a directory and
concerns whole files.  They report the same problem, under the log. -/
theorem log_links_ignore_locations_elsewhere :
    ∃ (d d' : Definition) (output : ScanOutput),
      d.indexing ≠ d'.indexing ∧ d.wholeFile ≠ d'.wholeFile ∧ d.fileLocation ≠ d'.fileLocation ∧
      d.steps.map (fun s => (s.file, s.line)) = [(some 1, some 2)] ∧
      d'.steps.map (fun s => (s.file, s.line)) = [(some 2, some 3)] ∧
      (Scanner.ofDefinitions [d] { logPath := some "l" }).scan (fun _ => false)
        (.lines ["a.c:7: bad"]) = .ok output ∧
      (Scanner.ofDefinitions [d'] { logPath := some "l", workspaceRoot := some "w" }).scan
        (fun _ => false) (.lines ["a.c:7: bad"]) = .ok output ∧
      output.listing.total = 1 ∧ ∀ path ∈ output.listing.paths, path = "l" := by
  let s : StepDefinition :=
    { regexp := some "^(.*):(.*): (.*)$", file := some 1, line := some 2, message := some 3 }
  let d : Definition :=
    { linkToLogFile := some (.flag true), pattern := some (.one s) }
  let d' : Definition :=
    { linkToLogFile := some (.flag true)
      fileLocation := some (.parts ["relative", "w"])
      zeroBased := some true
      pattern := some (.one { s with file := some 2, line := some 3, kind := some "file" }) }
  have htotal : ((Scanner.ofDefinitions [d] { logPath := some "l" }).whole
      (.lines ["a.c:7: bad"]) ["a.c:7: bad"]).listing.total = 1 := by
    unfold Scanner.whole
    rw [Listing.total_of_files (Listing.ofEmissions_files _)]
    decide +kernel
  have hscan := @Scanner.scan_never [d] { logPath := some "l" } (.lines ["a.c:7: bad"])
    ["a.c:7: bad"] rfl
  obtain ⟨-, -, hscans⟩ := @log_links_ignore_locations [d] [d'] (by decide) rfl
    { logPath := some "l" } (some "w")
  obtain ⟨hsame, hpaths⟩ := hscans (fun _ => false) (.lines ["a.c:7: bad"])
  exact ⟨d, d', _, by decide, by decide, by decide, rfl, rfl, hscan, hsame.trans hscan, htotal,
    hpaths _ hscan⟩

end LogProblems
