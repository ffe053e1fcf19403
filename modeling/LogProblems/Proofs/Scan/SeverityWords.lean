import LogProblems.Proofs.Matcher.SeverityWords
import LogProblems.Proofs.Scan.Alike

/-!
# Scans and severity words

Definitions that differ only in severity words and kinds that are not read make the same
scanner, whatever stands beside them, and so the same scans of every log.

* `Verdict.of_sameReading`: what becomes of one definition;
* `ofDefinitions_sameReading`: what becomes of all;
* `severity_words_read`: which severity words are read, and how.
-/

set_option autoImplicit false

namespace LogProblems

open LogProblems.Matcher

theorem Verdict.of_sameReading {d d' : Definition} (h : d.SameReading d') (strict : Bool)
    (place : Nat) : Verdict.of strict place d' = Verdict.of strict place d := by
  unfold Verdict.of
  rw [h.compile_eq place]

namespace Scanner

variable {ds ds' : List Definition}

theorem verdicts_sameReading (h : List.Forall₂ Definition.SameReading ds ds') (strict : Bool)
    (place : Nat) : verdicts strict place ds' = verdicts strict place ds := by
  induction h generalizing place with
  | nil => rfl
  | cons hhead _ ih => rw [verdicts, verdicts, ih, Verdict.of_sameReading hhead]

/-- Definitions that differ in what is not read make the same scanner. -/
theorem ofDefinitions_sameReading (h : List.Forall₂ Definition.SameReading ds ds')
    (options : ScanOptions) : ofDefinitions ds' options = ofDefinitions ds options := by
  unfold ofDefinitions
  rw [verdicts_sameReading h]

theorem notices_sameReading (h : List.Forall₂ Definition.SameReading ds ds') (strict : Bool)
    (place : Nat) : notices strict place ds' = notices strict place ds := by
  induction h generalizing place with
  | nil => rfl
  | @cons d d' _ _ hhead _ ih =>
    have hnotices : compileNotices d' place = compileNotices d place := by
      unfold compileNotices
      rw [hhead.compile_eq]
      cases compile d place with
      | error fault => rfl
      | ok m => exact hhead.pathNotices_eq m.title
    rw [notices, notices, ih, hnotices, Verdict.of_sameReading hhead]

end Scanner

/-- **Which severity words are read, and how.**

Severity words and kinds of later steps are not read, nor are any severity words where the
matcher declares a severity or no step captures one: definitions that differ in nothing else
compile to the same result, with the same matcher or the same fault, and in any list of
definitions they make the same scanner, which tells the same and gives the same scan of
every log.  Otherwise words are read: those of each severity are the matcher's if it has
any, be it an empty list, else the first step's, else the built-in one, and a captured text
has the first of the three severities whose words it is among.  Only for the built-in word
the letter case does not count. -/
theorem severity_words_read :
    (∀ d d' : Definition, d.SameReading d' → ∀ place, compile d' place = compile d place) ∧
    (∀ ds ds' : List Definition, List.Forall₂ Definition.SameReading ds ds' →
      ∀ options : ScanOptions,
        Scanner.ofDefinitions ds' options = Scanner.ofDefinitions ds options ∧
        Scanner.notices options.strictSeverity 0 ds'
          = Scanner.notices options.strictSeverity 0 ds ∧
        ∀ cancelled log, (Scanner.ofDefinitions ds' options).scan cancelled log
          = (Scanner.ofDefinitions ds options).scan cancelled log) ∧
    ∀ d : Definition,
      ((∃ indicators, SeverityRule.ofDefinition d = .captured indicators) ↔
        ¬ d.CapturesNoSeverity) ∧
      ∀ indicators : Indicators, SeverityRule.ofDefinition d = .captured indicators →
        ∀ text,
          (∀ c : Category, (c.indicator indicators).accepts text = true ↔ c.Means d text) ∧
          indicators.classify text
            = (Category.all.find? fun c => decide (c.Means d text)).map Category.severity := by
  refine ⟨fun d d' h place => h.compile_eq place, ?_, ?_⟩
  · intro ds ds' h options
    have hscanner := Scanner.ofDefinitions_sameReading h options
    refine ⟨hscanner, Scanner.notices_sameReading h options.strictSeverity 0, ?_⟩
    intro cancelled log
    rw [hscanner]
  · intro d
    constructor
    · simp only [SeverityRule.ofDefinition_eq_captured_iff, exists_and_left, exists_eq, and_true]
    · intro indicators h text
      obtain ⟨-, rfl⟩ := SeverityRule.ofDefinition_eq_captured_iff.1 h
      exact ⟨fun c => accepts_iff_means c d text, classify_eq_find? d text⟩

/-- A matcher with an empty list for errors, words for warnings that its first step gives to
another severity, and a later step whose words and kind do not count; and a matcher that
declares its severity and whose words do not count. -/
theorem severity_words_read_overlapping :
    ∃ (d d' e e' : Definition) (indicators : Indicators),
      d.errorWords = some (.many []) ∧ d.warningWords = some (.many ["E", "W"]) ∧
      d.steps.map (fun s => (s.infoWords, s.kind)) = [(some (.one "E"), none), (none, none)] ∧
      d'.steps.map (fun s => (s.infoWords, s.kind))
        = [(some (.one "E"), none), (some (.many ["x"]), some "file")] ∧
      e.severity = some "warning" ∧ e.errorWords = some (.one "E") ∧ e'.errorWords = none ∧
      SeverityRule.ofDefinition d = .captured indicators ∧
      (∀ place, compile d' place = compile d place) ∧
      (∀ log, (Scanner.ofDefinitions [d', e'] {}).scan (fun _ => false) log
        = (Scanner.ofDefinitions [d, e] {}).scan (fun _ => false) log) ∧
      indicators.classify "E" = some .warning ∧ indicators.classify "error" = none ∧
      indicators.info.accepts "E" = true ∧ indicators.info.accepts "INFO" = false := by
  let first : StepDefinition :=
    { regexp := some "^(.):$", severity := some 1, infoWords := some (.one "E") }
  let later : StepDefinition := { regexp := some "^ (.*)$", message := some 1 }
  let d : Definition :=
    { errorWords := some (.many [])
      warningWords := some (.many ["E", "W"])
      pattern := some (.many [first, later]) }
  let d' : Definition :=
    { d with pattern := some (.many
        [first, { later with infoWords := some (.many ["x"]), kind := some "file" }]) }
  let e : Definition :=
    { severity := some "warning", errorWords := some (.one "E"), pattern := some (.one first) }
  let e' : Definition := { e with errorWords := none }
  obtain ⟨hcompile, hscans, hread⟩ := severity_words_read
  have hlater : d.SameReading d' := .later rfl
  have hwords : e.SameReading e' := .words (.inl ⟨"warning", rfl, by decide⟩) rfl
  have hrule : SeverityRule.ofDefinition d = .captured (.ofDefinition d) := rfl
  obtain ⟨-, -, hscan⟩ := hscans [d, e] [d', e'] (.cons hlater (.cons hwords .nil)) {}
  have htexts := (hread d).2 _ hrule
  have hinfo := (htexts "INFO").1 .info
  refine ⟨d, d', e, e', _, rfl, rfl, rfl, rfl, rfl, rfl, rfl, hrule, hcompile d d' hlater,
    hscan (fun _ => false), ?_, ?_, ?_, ?_⟩
  · rw [(htexts "E").2]
    decide +kernel
  · rw [(htexts "error").2]
    decide +kernel
  · exact ((htexts "E").1 .info).2 (by decide)
  · exact Bool.eq_false_iff.2 fun haccepts => absurd (hinfo.1 haccepts) (by decide)

end LogProblems
