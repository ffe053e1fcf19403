import LogProblems.Proofs.Matcher.Report
import LogProblems.Proofs.Scan.Cancellation
import LogProblems.Proofs.Scan.Titles

/-!
# Definitions that are kept and definitions that are left out

A scanner keeps each of its definitions or leaves it out, and nothing else depends on
those that it leaves out: not the scans, though the places after them shift, and with the
places the names of untitled matchers.  A matcher without a source of severities is kept
with a warning, or left out where severities are asked for; it reports hints only, and
leaving it out deletes what it reports and changes nothing else.

* `verdicts_eq`: the verdicts on definitions, each by its place;
* `matchers_untitled`: which matchers are kept does not depend on the places;
* `matchers_strict` and `lineUp_filter`: what is deleted where severities are asked for;
* `forall_mem_rounds` and `severity_of_lacks`: reports that are hints;
* `scanner_partitions`: scanners of any definitions.
-/

set_option autoImplicit false

namespace LogProblems

open LogProblems.Matcher

/-! ## Which definitions are kept -/

/-- What becomes of the definition at a place: it is kept, or it is left out because it
does not compile or because it has no severities where they are asked for. -/
inductive Matcher.Definition.Becomes (strict : Bool) (place : Nat) (d : Definition) :
    Compiled ⊕ Fault → Prop
  | kept {m : Compiled} (compiled : compile d place = .ok m)
      (severe : strict = true → m.lacksSeveritySource = false) : d.Becomes strict place (.inl m)
  | broken {fault : Fault} (failed : compile d place = .error fault) :
      d.Becomes strict place (.inr fault)
  | unsevere {m : Compiled} (compiled : compile d place = .ok m) (asked : strict = true)
      (lacks : m.lacksSeveritySource = true) :
      d.Becomes strict place (.inr (.noSeveritySource m.title))

/-- What becomes of a definition is named by the title or the place of the definition. -/
theorem Matcher.Definition.Becomes.named {strict : Bool} {place : Nat} {d : Definition}
    {fate : Compiled ⊕ Fault} (h : d.Becomes strict place fate) :
    fate.elim (·.title) (·.matcher) = d.titleAt place := by
  cases h with
  | kept compiled => exact title_of_compile compiled
  | broken failed => exact matcher_of_compile failed
  | unsevere compiled => exact title_of_compile compiled

namespace Verdict

/-- The matcher that is kept, or the fault that it is left out for. -/
def fate : Verdict → Compiled ⊕ Fault
  | active m => .inl m
  | warned m _ => .inl m
  | excluded fault => .inr fault

theorem getLeft?_fate (v : Verdict) : v.fate.getLeft? = v.matcher? := by
  cases v <;> rfl

theorem getRight?_fate (v : Verdict) : v.fate.getRight? = v.exclusion? := by
  cases v <;> rfl

theorem isLeft_fate (v : Verdict) : v.fate.isLeft = v.matcher?.isSome := by
  cases v <;> rfl

theorem becomes (strict : Bool) (place : Nat) (d : Definition) :
    d.Becomes strict place (Verdict.of strict place d).fate := by
  rw [Verdict.of]
  cases hcompile : compile d place with
  | error fault => exact .broken hcompile
  | ok m =>
    cases hlacks : m.lacksSeveritySource with
    | false => simpa [hlacks, fate] using .kept hcompile fun _ => hlacks
    | true =>
      cases strict with
      | false => simpa [hlacks, fate] using .kept hcompile fun h => by cases h
      | true => simpa [hlacks, fate] using .unsevere hcompile rfl hlacks

/-- A warning is about a matcher that is kept and has no severities. -/
theorem warning?_of (strict : Bool) (place : Nat) (d : Definition) :
    (Verdict.of strict place d).warning?
      = ((Verdict.of strict place d).matcher?.filter (·.lacksSeveritySource)).map
          fun m => .noSeveritySource m.title := by
  rw [Verdict.of]
  cases compile d place with
  | error fault => rfl
  | ok m =>
    cases hlacks : m.lacksSeveritySource <;> cases strict <;>
      simp [hlacks, matcher?, warning?, Option.filter]

theorem matcher?_strict (place : Nat) (d : Definition) :
    (Verdict.of true place d).matcher?
      = (Verdict.of false place d).matcher?.filter (!·.lacksSeveritySource) := by
  rw [Verdict.of, Verdict.of]
  cases compile d place with
  | error fault => rfl
  | ok m => cases hlacks : m.lacksSeveritySource <;> simp [hlacks, matcher?, Option.filter]

theorem matcher?_untitled (strict : Bool) (place place' : Nat) (d : Definition) :
    (Verdict.of strict place' d).matcher?.map Compiled.untitled
      = (Verdict.of strict place d).matcher?.map Compiled.untitled := by
  have hcompiled := compile_untitled d place place'
  rw [Verdict.of, Verdict.of]
  cases h : compile d place with
  | error fault =>
    cases h' : compile d place' with
    | error fault' => rfl
    | ok m' => simp [h, h', Except.toOption] at hcompiled
  | ok m =>
    cases h' : compile d place' with
    | error fault' => simp [h, h', Except.toOption] at hcompiled
    | ok m' =>
      have huntitled : m'.untitled = m.untitled := by
        simpa [h, h', Except.toOption] using hcompiled
      have hlacks : m'.untitled.lacksSeveritySource = m.untitled.lacksSeveritySource := by
        rw [huntitled]
      replace hlacks : m'.lacksSeveritySource = m.lacksSeveritySource := hlacks
      simp only [hlacks]
      cases m.lacksSeveritySource <;> cases strict <;> simp [matcher?, huntitled]

end Verdict

namespace Scanner

theorem verdicts_eq (strict : Bool) (place : Nat) (ds : List Definition) :
    verdicts strict place ds = (ds.zipIdx place).map fun x => Verdict.of strict x.2 x.1 := by
  induction ds generalizing place with
  | nil => rfl
  | cons d rest ih => rw [verdicts, ih, List.zipIdx_cons, List.map_cons]

/-- Matchers that are kept are kept at all places. -/
theorem matchers_untitled (strict : Bool) (place : Nat) (ds : List Definition) :
    ((verdicts strict place ds).filterMap (·.matcher?)).map Compiled.untitled
      = ds.filterMap fun d => (Verdict.of strict 0 d).matcher?.map Compiled.untitled := by
  induction ds generalizing place with
  | nil => rfl
  | cons d rest ih =>
    have hplace := Verdict.matcher?_untitled strict place 0 d
    rw [verdicts, List.filterMap_cons, List.filterMap_cons, hplace]
    cases (Verdict.of strict place d).matcher? with
    | none => exact ih (place + 1)
    | some m => exact congrArg (m.untitled :: ·) (ih (place + 1))

theorem kept_eq_filter (strict : Bool) (place : Nat) (ds : List Definition) :
    ((ds.zip ((verdicts strict place ds).map Verdict.fate)).filter fun x => x.2.isLeft).map (·.1)
      = ds.filter fun d => ((Verdict.of strict 0 d).matcher?.map Compiled.untitled).isSome := by
  induction ds generalizing place with
  | nil => rfl
  | cons d rest ih =>
    have hplace : ((Verdict.of strict 0 d).matcher?.map Compiled.untitled).isSome
        = (Verdict.of strict place d).fate.isLeft := by
      rw [Verdict.matcher?_untitled strict place 0 d, Option.isSome_map, Verdict.isLeft_fate]
    rw [verdicts, List.map_cons, List.zip_cons_cons, List.filter_cons, List.filter_cons, hplace]
    split
    · rw [List.map_cons, ih]
    · exact ih (place + 1)

variable (ds : List Definition) (options : ScanOptions)

theorem forall₂_becomes (strict : Bool) (place : Nat) :
    List.Forall₂ (fun x fate => x.1.Becomes strict x.2 fate) (ds.zipIdx place)
      ((verdicts strict place ds).map Verdict.fate) := by
  rw [verdicts_eq, List.map_map, List.forall₂_map_right_iff, List.forall₂_same]
  intro x _
  exact Verdict.becomes strict x.2 x.1

theorem warnings_eq :
    (ofDefinitions ds options).warnings
      = ((ofDefinitions ds options).matchers.filter (·.lacksSeveritySource)).map
          fun m => .noSeveritySource m.title := by
  show (verdicts options.strictSeverity 0 ds).filterMap (·.warning?)
    = (((verdicts options.strictSeverity 0 ds).filterMap (·.matcher?)).filter _).map _
  rw [verdicts_eq, List.filterMap_map, List.filterMap_map, List.filter_filterMap,
    List.map_filterMap]
  exact List.filterMap_congr fun x _ => Verdict.warning?_of _ x.2 x.1

theorem matchers_strict :
    (ofDefinitions ds { options with strictSeverity := true }).matchers
      = (ofDefinitions ds { options with strictSeverity := false }).matchers.filter
          (!·.lacksSeveritySource) := by
  show (verdicts true 0 ds).filterMap (·.matcher?)
    = ((verdicts false 0 ds).filterMap (·.matcher?)).filter _
  rw [verdicts_eq, verdicts_eq, List.filterMap_map, List.filterMap_map, List.filter_filterMap]
  exact List.filterMap_congr fun x _ => Verdict.matcher?_strict x.2 x.1

end Scanner

/-! ## Matchers without severities -/

/-- What holds of every report of some matches holds of all that a matcher reports. -/
theorem Matcher.State.forall_mem_rounds {m : Compiled} (hm : m.Lawful) {context : Context}
    {P : Emission → Prop} (hP : ∀ hits ≠ [], P (m.report context hits)) (number : Nat)
    (lines : List String) : ∀ e ∈ (State.blank.rounds m context number lines).flatten, P e := by
  obtain ⟨es, hes, hall⟩ := Compiled.emissions_forall₂ hm context number lines
    (P := fun _ e => P e) fun _ hits hfollows => hP hits hfollows.ne_nil
  rw [emissions_eq_rounds hm context lines number (sound_blank hm)] at hes
  obtain rfl := Except.ok.inj hes
  intro e he
  obtain ⟨i, hi, rfl⟩ := List.getElem_of_mem he
  exact hall.get (by rwa [hall.length_eq]) hi

/-- What a matcher without a source of severities reports are hints. -/
theorem Matcher.State.severity_of_lacks {m : Compiled} (hm : m.Lawful)
    (hlacks : m.lacksSeveritySource = true) (context : Context) (number : Nat)
    (lines : List String) :
    ∀ e ∈ (State.blank.rounds m context number lines).flatten, e.record.severity = .hint := by
  have hrule : m.severity = .unspecified := by
    simpa [Compiled.lacksSeveritySource] using hlacks
  refine forall_mem_rounds hm (fun hits _ => ?_) number lines
  show (m.gathered context hits).severity = .hint
  rw [Compiled.gathered_severity, Compiled.severityOf, hrule]
  exact ite_self _

namespace Scan

/-- The shares of a round without those of the matchers that have no severities. -/
def severeShares (ms : List Compiled) (round : List (List Emission)) : List (List Emission) :=
  ((ms.zip round).filter fun x => !x.1.lacksSeveritySource).map (·.2)

theorem severeShares_map (ms : List Compiled) (f : Compiled → List Emission) :
    severeShares ms (ms.map f) = (ms.filter (!·.lacksSeveritySource)).map f := by
  induction ms with
  | nil => rfl
  | cons m ms ih =>
    rw [severeShares] at ih ⊢
    rw [List.map_cons, List.zip_cons_cons, List.filter_cons, List.filter_cons]
    split
    · rw [List.map_cons, List.map_cons, ih]
    · exact ih

/-- Without such matchers, a scan has the shares of the others. -/
theorem lineUp_filter (ms : List Compiled) (context : Context) (lines : List String) :
    lineUp (ms.filter (!·.lacksSeveritySource)) context lines
      = (lineUp ms context lines).map (severeShares ms) := by
  rw [lineUp, lineUp, List.map_map]
  exact List.map_congr_left fun i _ => (severeShares_map ms _).symm

end Scan

namespace Scanner

variable {ds : List Definition} {options : ScanOptions} {log : LogInput} {lines : List String}

/-- What a scan of a log comes to that nobody cancels. -/
def whole (s : Scanner) (log : LogInput) (lines : List String) : ScanOutput :=
  ⟨.ofEmissions (Scan.lineUp s.matchers (log.contextIn s.context) lines).flatten.flatten,
    lines.length⟩

/-- A scan of a log that can be read is all or nothing. -/
theorem exists_scan_allOrNothing (h : log.read = .ok lines) (cancelled : Nat → Bool) :
    ∃ course, AllOrNothing cancelled (log.questions lines.length) lines
      ((ofDefinitions ds options).whole log lines) course
      ((ofDefinitions ds options).scan cancelled log) := by
  have hms := @lawful_of_mem_matchers ds options
  have hstart := Scan.start_sound hms (log.contextIn (ofDefinitions ds options).context)
  have houtcome :=
    Scan.outcome_start hms (log.contextIn (ofDefinitions ds options).context) lines
  cases log with
  | lines ls =>
    obtain rfl := Except.ok.inj h
    obtain ⟨output, hwhole, hscan⟩ := Scan.run_allOrNothing hstart rfl cancelled ls
    obtain rfl := Except.ok.inj (houtcome.symm.trans hwhole)
    exact ⟨_, hscan⟩
  | octets os =>
    obtain rfl := Except.ok.inj h
    obtain ⟨output, hwhole, hscan⟩ :=
      Scan.runToEnd_allOrNothing hstart rfl cancelled (linesOfOctets os)
    obtain rfl := Except.ok.inj (houtcome.symm.trans hwhole)
    exact ⟨_, hscan⟩
  | file files path =>
    cases hread : files.read path with
    | error fault => simp [LogInput.read, hread, Except.map] at h
    | ok os =>
      have hlines : linesOfOctets os = lines := by
        simpa [LogInput.read, hread, Except.map] using h
      obtain ⟨output, hwhole, hscan⟩ := Scan.runToEnd_allOrNothing hstart rfl cancelled lines
      obtain rfl := Except.ok.inj (houtcome.symm.trans hwhole)
      rw [scan, scanFile, hread]
      simp only [hlines]
      exact ⟨_, hscan⟩

theorem scan_never (h : log.read = .ok lines) :
    (ofDefinitions ds options).scan (fun _ => false) log
      = .ok ((ofDefinitions ds options).whole log lines) := by
  obtain ⟨_, hscan⟩ := exists_scan_allOrNothing h fun _ => false
  exact (hscan.whole_of_none fun _ _ => rfl).1

theorem scan_of_unread {fault : IoFault} (h : log.read = .error fault) (s s' : Scanner)
    (cancelled : Nat → Bool) : s'.scan cancelled log = s.scan cancelled log := by
  cases log with
  | lines ls => cases h
  | octets os => cases h
  | file files path =>
    cases hread : files.read path with
    | ok os => simp [LogInput.read, hread, Except.map] at h
    | error fault =>
      simp only [scan, scanFile, hread]
      cases fault <;> rfl

/-- Of two scanners, the second scans the log as the first does, but reports nothing of
the matchers without severities, and these report hints. -/
structure Unsevere (lenient strict : Scanner) (log : LogInput) (lines : List String)
    (rounds : List (List (List Emission))) : Prop where
  shares : (lenient.beginOn log).shares lines = .ok rounds
  shares_strict : (strict.beginOn log).shares lines
    = .ok (rounds.map (Scan.severeShares lenient.matchers))
  output : lenient.scan (fun _ => false) log
    = .ok ⟨.ofEmissions rounds.flatten.flatten, lines.length⟩
  output_strict : strict.scan (fun _ => false) log
    = .ok ⟨.ofEmissions (rounds.map (Scan.severeShares lenient.matchers)).flatten.flatten,
      lines.length⟩
  /-- Both scans are given up, or neither. -/
  cancelled : ∀ cancelled,
    (∃ fault, lenient.scan cancelled log = .error fault
      ∧ strict.scan cancelled log = .error fault)
    ∨ (lenient.scan cancelled log = lenient.scan (fun _ => false) log
      ∧ strict.scan cancelled log = strict.scan (fun _ => false) log)
  hints : ∀ k m, lenient.matchers[k]? = some m → m.lacksSeveritySource = true →
    ∀ round ∈ rounds, ∀ e ∈ round.getD k [], e.record.severity = .hint

theorem unsevere (h : log.read = .ok lines) :
    Unsevere (ofDefinitions ds { options with strictSeverity := false })
      (ofDefinitions ds { options with strictSeverity := true }) log lines
      (Scan.lineUp (ofDefinitions ds { options with strictSeverity := false }).matchers
        (log.contextIn { logPath := options.logPath, workspaceRoot := options.workspaceRoot })
        lines) := by
  have hstrict := Scan.lineUp_filter
    (ofDefinitions ds { options with strictSeverity := false }).matchers
    (log.contextIn { logPath := options.logPath, workspaceRoot := options.workspaceRoot }) lines
  rw [← matchers_strict] at hstrict
  refine ⟨Scan.shares_start lawful_of_mem_matchers _ lines, ?_, scan_never h, ?_, ?_, ?_⟩
  · rw [← hstrict]
    exact Scan.shares_start lawful_of_mem_matchers _ lines
  · rw [← hstrict]
    exact scan_never h
  · intro cancelled
    rw [scan_never h, scan_never h]
    obtain ⟨_, hscan⟩ :=
      @exists_scan_allOrNothing ds { options with strictSeverity := false } _ _ h cancelled
    obtain ⟨_, hscan'⟩ :=
      @exists_scan_allOrNothing ds { options with strictSeverity := true } _ _ h cancelled
    rcases first_or_none cancelled (log.questions lines.length) with ⟨k, hk, hyes, hno⟩ | hnone
    · exact Or.inl ⟨_, (hscan.cancelled_of_first k hk hyes hno).1,
        (hscan'.cancelled_of_first k hk hyes hno).1⟩
    · exact Or.inr ⟨(hscan.whole_of_none hnone).1, (hscan'.whole_of_none hnone).1⟩
  · intro k m hk hlacks round hround e he
    have hm := lawful_of_mem_matchers m (List.mem_of_getElem? hk)
    have hshare := List.mem_map_of_mem (f := fun round => round.getD k []) hround
    rw [Scan.map_getD_lineUp hk] at hshare
    exact State.severity_of_lacks hm hlacks _ 0 lines e (List.mem_flatten.2 ⟨_, hshare, he⟩)

end Scanner

/-- **A scanner keeps each definition or leaves it out, and what it leaves out does not
matter to the others.**

The matchers and the reasons for leaving definitions out stand in the order of the
definitions and are named by titles, or by places among all definitions.  The warnings
are about the matchers that have no source of severities; where severities are asked
for, these are left out and there are no warnings.  Every log is scanned as by the
scanner of the definitions that are kept.  Asking for severities deletes what the
matchers without them report, which are hints, and changes nothing else. -/
theorem scanner_partitions (ds : List Definition) (options : ScanOptions) :
    (∃ fates : List (Compiled ⊕ Fault),
      List.Forall₂ (fun x fate => x.1.Becomes options.strictSeverity x.2 fate ∧
        fate.elim (·.title) (·.matcher) = x.1.titleAt x.2) ds.zipIdx fates ∧
      (Scanner.ofDefinitions ds options).matchers = fates.filterMap (·.getLeft?) ∧
      (Scanner.ofDefinitions ds options).excluded = fates.filterMap (·.getRight?) ∧
      ∀ cancelled log,
        (Scanner.ofDefinitions (((ds.zip fates).filter fun x => x.2.isLeft).map (·.1))
            options).scan cancelled log
          = (Scanner.ofDefinitions ds options).scan cancelled log) ∧
    (Scanner.ofDefinitions ds options).warnings
      = ((Scanner.ofDefinitions ds options).matchers.filter (·.lacksSeveritySource)).map
          (fun m => .noSeveritySource m.title) ∧
    (options.strictSeverity = true → (Scanner.ofDefinitions ds options).warnings = []) ∧
    ∀ log,
      (∀ fault, log.read = .error fault → ∀ cancelled,
        (Scanner.ofDefinitions ds { options with strictSeverity := true }).scan cancelled log
          = (Scanner.ofDefinitions ds { options with strictSeverity := false }).scan
              cancelled log) ∧
      ∀ lines, log.read = .ok lines → ∃ rounds,
        Scanner.Unsevere (Scanner.ofDefinitions ds { options with strictSeverity := false })
          (Scanner.ofDefinitions ds { options with strictSeverity := true }) log lines rounds := by
  refine ⟨⟨(Scanner.verdicts options.strictSeverity 0 ds).map Verdict.fate, ?_, ?_, ?_, ?_⟩,
    Scanner.warnings_eq ds options, ?_, fun log => ⟨fun fault h => Scanner.scan_of_unread h _ _,
      fun lines h => ⟨_, Scanner.unsevere h⟩⟩⟩
  · exact (Scanner.forall₂_becomes ds options.strictSeverity 0).imp fun _ _ h => ⟨h, h.named⟩
  · rw [List.filterMap_map]
    exact List.filterMap_congr fun v _ => (Verdict.getLeft?_fate v).symm
  · rw [List.filterMap_map]
    exact List.filterMap_congr fun v _ => (Verdict.getRight?_fate v).symm
  · refine Scanner.scan_congr ?_
    show List.map _ ((Scanner.verdicts options.strictSeverity 0 _).filterMap _)
      = List.map _ ((Scanner.verdicts options.strictSeverity 0 ds).filterMap _)
    rw [Scanner.matchers_untitled, Scanner.matchers_untitled, Scanner.kept_eq_filter,
      List.filterMap_filter]
    refine List.filterMap_congr fun d _ => ?_
    cases (Verdict.of options.strictSeverity 0 d).matcher? <;> rfl
  · intro hstrict
    have hmatchers := Scanner.matchers_strict ds options
    rw [← hstrict] at hmatchers
    rw [Scanner.warnings_eq, List.map_eq_nil_iff, List.filter_eq_nil_iff]
    intro m hm
    rw [hmatchers] at hm
    simpa using (List.mem_filter.1 hm).2

/-- A broken definition, one without severities and one that is kept: the scan reports a
hint and an error, and only the error where severities are asked for. -/
theorem scanner_partitions_mixed :
    ∃ (ds : List Definition) (rounds : List (List (List Emission))),
      (Scanner.ofDefinitions ds {}).excluded = [.invalidRegex "Matcher 0" "("] ∧
      (Scanner.ofDefinitions ds {}).matchers.map (·.title) = ["Matcher 1", "Matcher 2"] ∧
      (Scanner.ofDefinitions ds {}).warnings = [.noSeveritySource "Matcher 1"] ∧
      (Scanner.ofDefinitions ds { strictSeverity := true }).warnings = [] ∧
      Scanner.Unsevere (Scanner.ofDefinitions ds {})
        (Scanner.ofDefinitions ds { strictSeverity := true }) (.lines ["E1"]) ["E1"] rounds ∧
      rounds.map (·.map (·.map (·.record.severity))) = [[[.hint], [.error]], [[], []]] := by
  have hrun : ((Scanner.ofDefinitions
      [{ pattern := some (.one { regexp := some "(" }) },
        { pattern := some (.one { regexp := some "^(.*)$" }) },
        { severity := some "error", pattern := some (.one { regexp := some "^E(.*)$" }) }]
      {}).beginOn (.lines ["E1"]) |>.shares ["E1"]).toOption.map
        (·.map (·.map (·.map (·.record.severity)))) = some [[[.hint], [.error]], [[], []]] := by
    decide +kernel
  obtain ⟨_, _, hnone, hlogs⟩ := scanner_partitions
    [{ pattern := some (.one { regexp := some "(" }) },
      { pattern := some (.one { regexp := some "^(.*)$" }) },
      { severity := some "error", pattern := some (.one { regexp := some "^E(.*)$" }) }]
    { strictSeverity := true }
  obtain ⟨rounds, hrounds⟩ := (hlogs (.lines ["E1"])).2 ["E1"] rfl
  rw [hrounds.shares] at hrun
  exact ⟨_, rounds, by decide +kernel, by decide +kernel, by decide +kernel, hnone rfl, hrounds,
    Option.some.inj hrun⟩

end LogProblems
