import LogProblems.Proofs.Matcher.Advance
import LogProblems.Proofs.Text.Lowercase

/-!
# Which severity words are read

Severity words stand at a matcher and at each of its steps, and most of them are never
looked at: those of later steps never are, and none is where the matcher declares one
severity for all problems, or where no step captures a severity.  The kind of a later step
is not looked at either.  A definition without what is not looked at compiles to the very
same matcher.

Where words are looked at, each severity has its own: the matcher's, if it names any, and be
it in an empty list; else the first step's; else the built-in word, for which the letter case
does not count.  The built-in words are read in the same way where a matcher declares one.

* `compile_bareLater` and `compile_wordless`: what is not read can be taken away;
* `Definition.SameReading.compile_eq`: definitions that differ in what is not read;
* `accepts_iff_means`: the words of a severity;
* `classify_eq_find?`: the severity of a captured text;
* `severity_readers_agree`: declared words and built-in ones.
-/

set_option autoImplicit false

namespace LogProblems.Matcher

/-! ## Without words -/

/-- The step without severity words. -/
def StepDefinition.wordless (s : StepDefinition) : StepDefinition :=
  { s with errorWords := none, warningWords := none, infoWords := none }

/-- The step with neither severity words nor a kind. -/
def StepDefinition.bare (s : StepDefinition) : StepDefinition :=
  { s.wordless with kind := none }

/-- The steps, each without severity words. -/
def Steps.wordless : Steps → Steps
  | .one s => .one s.wordless
  | .many ss => .many (ss.map StepDefinition.wordless)

/-- Steps, those behind the first with neither severity words nor kinds. -/
def bareTail : List StepDefinition → List StepDefinition
  | [] => []
  | first :: later => first :: later.map StepDefinition.bare

/-- The steps, those behind the first with neither severity words nor kinds. -/
def Steps.bareLater : Steps → Steps
  | .one s => .one s
  | .many ss => .many (bareTail ss)

namespace Definition

/-- The definition without severity words. -/
def wordless (d : Definition) : Definition :=
  { d with
    errorWords := none
    warningWords := none
    infoWords := none
    pattern := d.pattern.map Steps.wordless }

/-- The definition whose later steps have neither severity words nor kinds. -/
def bareLater (d : Definition) : Definition :=
  { d with pattern := d.pattern.map Steps.bareLater }

/-- Severities are not captured: one is declared for all problems, or no step has a group
for them. -/
def CapturesNoSeverity (d : Definition) : Prop :=
  (∃ word, d.severity = some word ∧ word ≠ "") ∨ ∀ s ∈ d.steps, s.severity = none

/-- The definitions differ only in what is not read: in severity words and kinds of later
steps, or in any severity words where severities are not captured. -/
inductive SameReading (d d' : Definition) : Prop
  | later (h : d'.bareLater = d.bareLater)
  | words (hnone : d.CapturesNoSeverity) (h : d'.wordless = d.wordless)

variable {d d' : Definition}

theorem steps_wordless (d : Definition) :
    d.wordless.steps = d.steps.map StepDefinition.wordless := by
  unfold steps wordless
  cases d.pattern with
  | none => rfl
  | some p => cases p <;> rfl

theorem steps_bareLater (d : Definition) : d.bareLater.steps = bareTail d.steps := by
  unfold steps bareLater
  cases d.pattern with
  | none => rfl
  | some p => cases p <;> rfl

end Definition

/-! ## Compiling without words -/

theorem compileSteps_map {f : StepDefinition → StepDefinition} {title : String}
    {wholeFile only : Bool}
    (hf : ∀ place s, compileStep title wholeFile only place (f s)
      = compileStep title wholeFile only place s) (ss : List StepDefinition) (place : Nat) :
    compileSteps title wholeFile only place (ss.map f)
      = compileSteps title wholeFile only place ss := by
  induction ss generalizing place with
  | nil => rfl
  | cons s rest ih =>
    rw [List.map_cons]
    unfold compileSteps
    rw [hf, ih]

theorem filter_severity_eq_some_iff {d : Definition} {word : String} :
    d.severity.filter (!·.isEmpty) = some word ↔ d.severity = some word ∧ word ≠ "" := by
  simp [Option.filter_eq_some_iff]

theorem any_severity_eq_false_iff {steps : List StepDefinition} :
    steps.any (·.severity.isSome) = false ↔ ∀ s ∈ steps, s.severity = none := by
  simp

namespace SeverityRule

/-- Only the first step's words count. -/
theorem ofDefinition_bareLater (d : Definition) : ofDefinition d.bareLater = ofDefinition d := by
  have hseverity : d.bareLater.severity = d.severity := rfl
  unfold ofDefinition Indicators.ofDefinition
  rw [hseverity, d.steps_bareLater]
  cases d.steps with
  | nil => rfl
  | cons first later =>
    rw [bareTail, List.any_cons, List.any_map]
    rfl

theorem ofDefinition_wordless {d : Definition} (h : d.CapturesNoSeverity) :
    ofDefinition d.wordless = ofDefinition d := by
  have hseverity : d.wordless.severity = d.severity := rfl
  unfold ofDefinition
  rw [hseverity]
  rcases h with ⟨word, hword⟩ | hnone
  · rw [filter_severity_eq_some_iff.2 hword]
  · have hany := any_severity_eq_false_iff.2 hnone
    have hany' : d.wordless.steps.any (·.severity.isSome) = false := by
      rw [d.steps_wordless, List.any_map]
      exact hany
    simp only [hany, hany', Bool.false_eq_true, if_false]

end SeverityRule

/-- What later steps tell of severities and kinds can be taken away. -/
theorem compile_bareLater (d : Definition) (place : Nat) :
    compile d.bareLater place = compile d place := by
  have hassembled : d.bareLater.assembled place = d.assembled place := by
    unfold Definition.assembled
    rw [SeverityRule.ofDefinition_bareLater]
    rfl
  have htitle : d.bareLater.titleAt place = d.titleAt place := rfl
  have hwhole : d.bareLater.wholeFile = d.wholeFile := by
    unfold Definition.wholeFile
    rw [d.steps_bareLater]
    cases d.steps <;> rfl
  apply compile_congr hassembled
  · rw [d.steps_bareLater]
    cases d.steps <;> rfl
  · rw [d.steps_bareLater, hwhole, htitle]
    cases d.steps with
    | nil => rfl
    | cons first later =>
      -- The first step is the same, and a step compiles without its words and its kind.
      rw [bareTail, List.length_cons, List.length_map, List.length_cons]
      unfold compileSteps
      rw [compileSteps_map (f := StepDefinition.bare) fun _ _ => rfl]

theorem compile_wordless {d : Definition} (h : d.CapturesNoSeverity) (place : Nat) :
    compile d.wordless place = compile d place := by
  have hassembled : d.wordless.assembled place = d.assembled place := by
    unfold Definition.assembled
    rw [SeverityRule.ofDefinition_wordless h]
    rfl
  have htitle : d.wordless.titleAt place = d.titleAt place := rfl
  have hwhole : d.wordless.wholeFile = d.wholeFile := by
    unfold Definition.wholeFile
    rw [d.steps_wordless, List.head?_map]
    cases d.steps.head? <;> rfl
  apply compile_congr hassembled
  · rw [d.steps_wordless, List.isEmpty_map]
  · rw [d.steps_wordless, hwhole, htitle, List.length_map,
      compileSteps_map (f := StepDefinition.wordless) fun _ _ => rfl]

namespace Definition

variable {d d' : Definition}

/-- Whether severities are captured is told without severity words. -/
theorem capturesNoSeverity_wordless : d.wordless.CapturesNoSeverity ↔ d.CapturesNoSeverity := by
  unfold CapturesNoSeverity
  rw [d.steps_wordless, List.forall_mem_map]
  rfl

namespace SameReading

theorem compile_eq (h : d.SameReading d') (place : Nat) : compile d' place = compile d place := by
  cases h with
  | later hbare => rw [← compile_bareLater d', hbare, compile_bareLater]
  | words hnone hwordless =>
    have hnone' : d'.CapturesNoSeverity := by
      rw [← capturesNoSeverity_wordless, hwordless]
      exact capturesNoSeverity_wordless.2 hnone
    rw [← compile_wordless hnone', hwordless, compile_wordless hnone]

theorem pathNotices_eq (h : d.SameReading d') (title : String) :
    d'.pathNotices title = d.pathNotices title := by
  cases h with
  | later hbare =>
    have hkept : ∀ d : Definition, d.bareLater.pathNotices title = d.pathNotices title :=
      fun _ => rfl
    rw [← hkept d', hbare, hkept]
  | words _ hwordless =>
    have hkept : ∀ d : Definition, d.wordless.pathNotices title = d.pathNotices title :=
      fun _ => rfl
    rw [← hkept d', hwordless, hkept]

end SameReading

end Definition

/-! ## Words that are read -/

/-- The severities that words stand for, in the order in which they are tried. -/
inductive Category where
  | error
  | warning
  | info
  deriving DecidableEq, Repr, Inhabited

namespace Category

/-- The order in which the words are tried. -/
def all : List Category := [error, warning, info]

/-- The severity that the words stand for. -/
def severity : Category → Severity
  | error => .error
  | warning => .warning
  | info => .information

/-- The word for authors who give none. -/
def builtInWord : Category → String
  | error => "error"
  | warning => "warning"
  | info => "info"

/-- The words that stand at the matcher. -/
def ofMatcher (d : Definition) : Category → Option Words
  | error => d.errorWords
  | warning => d.warningWords
  | info => d.infoWords

/-- The words that stand at a step. -/
def ofStep (s : StepDefinition) : Category → Option Words
  | error => s.errorWords
  | warning => s.warningWords
  | info => s.infoWords

/-- The words that a matcher was compiled with. -/
def indicator (i : Indicators) : Category → Indicator
  | error => i.error
  | warning => i.warning
  | info => i.info

/-- The author's words: the matcher's if it has some, be it an empty list, else the first
step's. -/
def words? (c : Category) (d : Definition) : Option Words :=
  match c.ofMatcher d with
  | some words => some words
  | none => d.steps.head?.bind fun first => c.ofStep first

end Category

/-- The text is one of the words; without words, it is the built-in one in any letter
case. -/
def Among (text builtIn : String) : Option Words → Prop
  | some words => text ∈ words.toList
  | none => Text.Lowercase.ofText text = Text.Lowercase.ofText builtIn

instance (text builtIn : String) : ∀ words, Decidable (Among text builtIn words)
  | some words => inferInstanceAs (Decidable (text ∈ words.toList))
  | none => inferInstanceAs (Decidable (Text.Lowercase.ofText text = _))

/-- In the matcher, the text is a word of the category. -/
def Category.Means (c : Category) (d : Definition) (text : String) : Prop :=
  Among text c.builtInWord (c.words? d)

instance (c : Category) (d : Definition) (text : String) : Decidable (c.Means d text) :=
  inferInstanceAs (Decidable (Among _ _ _))

theorem accepts_pick {matcher step : Option Words} {builtIn text : String}
    (hlower : Text.Lowercase.ofText builtIn = builtIn) :
    (Indicators.pick matcher step builtIn).accepts text = true
      ↔ Among text builtIn (matcher.or step) := by
  unfold Indicators.pick
  cases matcher.or step with
  | some words => exact List.contains_iff_mem
  | none =>
    rw [Indicator.accepts, beq_iff_eq, Among, hlower]
    exact eq_comm

/-- The words of a category are its author's, else the built-in one. -/
theorem accepts_iff_means (c : Category) (d : Definition) (text : String) :
    (c.indicator (.ofDefinition d)).accepts text = true ↔ c.Means d text := by
  have hor : ∀ matcher step : Option Words,
      matcher.or step = match matcher with | some words => some words | none => step := by
    intro matcher step
    cases matcher <;> rfl
  unfold Category.Means Category.words?
  rw [← hor]
  cases c with
  | error => exact accepts_pick (by decide +kernel)
  | warning => exact accepts_pick (by decide +kernel)
  | info => exact accepts_pick (by decide +kernel)

theorem classify_eq_find? (d : Definition) (text : String) :
    (Indicators.ofDefinition d).classify text
      = (Category.all.find? fun c => decide (c.Means d text)).map Category.severity := by
  have haccepts : ∀ c : Category,
      (c.indicator (.ofDefinition d)).accepts text = decide (c.Means d text) := by
    intro c
    rw [Bool.eq_iff_iff, accepts_iff_means, decide_eq_true_iff]
  have herror := haccepts .error
  have hwarning := haccepts .warning
  have hinfo := haccepts .info
  unfold Indicators.classify Category.all
  simp only [Category.indicator] at herror hwarning hinfo
  simp only [herror, hwarning, hinfo, List.find?_cons, List.find?_nil]
  cases decide (Category.error.Means d text) with
  | true => rfl
  | false =>
    cases decide (Category.warning.Means d text) with
    | true => rfl
    | false => cases decide (Category.info.Means d text) <;> rfl

/-- Words are read unless severities are not captured. -/
theorem SeverityRule.ofDefinition_eq_captured_iff {d : Definition} {indicators : Indicators} :
    ofDefinition d = .captured indicators
      ↔ ¬ d.CapturesNoSeverity ∧ indicators = .ofDefinition d := by
  unfold ofDefinition
  cases hdeclared : d.severity.filter (!·.isEmpty) with
  | some word =>
    have hnone : d.CapturesNoSeverity := .inl ⟨word, filter_severity_eq_some_iff.1 hdeclared⟩
    simp [hnone]
  | none =>
    cases hany : d.steps.any (·.severity.isSome) with
    | false =>
      have hnone : d.CapturesNoSeverity := .inr (any_severity_eq_false_iff.1 hany)
      simp [hnone]
    | true =>
      have hcaptures : ¬ d.CapturesNoSeverity := by
        rintro (⟨word, hword⟩ | hnone)
        · rw [filter_severity_eq_some_iff.2 hword] at hdeclared
          cases hdeclared
        · rw [any_severity_eq_false_iff.2 hnone] at hany
          cases hany
      simp [hcaptures, eq_comm]

/-! ## Declared words -/

theorem declaredSeverity_of_lower {text : String} (c : Category)
    (h : Text.Lowercase.ofText text = c.builtInWord) : declaredSeverity text = some c.severity := by
  unfold declaredSeverity
  rw [h]
  cases c with
  | error => rfl
  | warning => rfl
  | info => rfl

theorem exists_of_declaredSeverity {text : String} {severity : Severity}
    (h : declaredSeverity text = some severity) :
    ∃ c : Category, c.severity = severity ∧ Text.Lowercase.ofText text = c.builtInWord := by
  unfold declaredSeverity at h
  dsimp only at h
  split at h
  · next hword => exact ⟨.error, Option.some.inj h, hword⟩
  · split at h
    · next hword => exact ⟨.warning, Option.some.inj h, hword⟩
    · split at h
      · next hword => exact ⟨.info, Option.some.inj h, hword⟩
      · cases h

/-- A matcher may declare a built-in word. -/
theorem classify_builtIn (text : String) :
    Indicators.classify {} text = declaredSeverity text := by
  unfold Indicators.classify declaredSeverity
  simp only [Indicator.accepts, beq_iff_eq, eq_comm (b := Text.Lowercase.ofText text)]

theorem Category.builtInWord_plain (c : Category) : Text.Lowercase.IsPlain c.builtInWord := by
  cases c <;> decide

theorem declaredSeverity_eq_some_iff {text : String} {severity : Severity} :
    declaredSeverity text = some severity ↔
      ∃ c : Category, c.severity = severity ∧ Text.AsciiVariant text c.builtInWord := by
  constructor
  · intro h
    obtain ⟨c, hseverity, hlower⟩ := exists_of_declaredSeverity h
    exact ⟨c, hseverity, (Text.Lowercase.ofText_eq_iff c.builtInWord_plain text).1 hlower⟩
  · rintro ⟨c, rfl, hvariant⟩
    apply declaredSeverity_of_lower
    exact (Text.Lowercase.ofText_eq_iff c.builtInWord_plain text).2 hvariant

/-- **The two readers of severity words agree.**

Every text names the same severity, or none, where a matcher declares it and where it is
captured by a matcher without words of its own.  It names the one whose word it is in ASCII
letters of any case; so a text that is not ASCII names none, although its lower case may hold
ASCII letters. -/
theorem severity_readers_agree (text : String) :
    Indicators.classify {} text = declaredSeverity text ∧
    (∀ severity, declaredSeverity text = some severity ↔
      ∃ c : Category, c.severity = severity ∧ Text.AsciiVariant text c.builtInWord) ∧
    ∀ c ∈ text.toList, ¬ Text.IsAscii c → declaredSeverity text = none := by
  refine ⟨classify_builtIn text, fun severity => declaredSeverity_eq_some_iff, ?_⟩
  intro c hc hnot
  cases hdeclared : declaredSeverity text with
  | none => rfl
  | some severity =>
    obtain ⟨word, -, hvariant⟩ := declaredSeverity_eq_some_iff.1 hdeclared
    exact absurd
      (Text.Lowercase.isAscii_of_asciiVariant word.builtInWord_plain hvariant c hc) hnot

/-- The dotted capital I, whose lower case begins with the ASCII letter. -/
theorem severity_readers_agree_dotted :
    ∃ text : String, text.toList = [Char.ofNat 0x130, 'N', 'F', 'O'] ∧
      (Text.Lowercase.ofText text).toList = ['i', Char.ofNat 0x307, 'n', 'f', 'o'] ∧
      Char.ofNat 0x130 ∈ text.toList ∧ ¬ Text.IsAscii (Char.ofNat 0x130) ∧
      declaredSeverity text = none ∧ Indicators.classify {} text = none := by
  let text : String := String.ofList [Char.ofNat 0x130, 'N', 'F', 'O']
  have hmem : Char.ofNat 0x130 ∈ text.toList := by decide
  have hnot : ¬ Text.IsAscii (Char.ofNat 0x130) := by decide
  obtain ⟨hagree, -, hnone⟩ := severity_readers_agree text
  have hdeclared := hnone _ hmem hnot
  exact ⟨text, by decide, by decide +kernel, hmem, hnot, hdeclared, hagree.trans hdeclared⟩

end LogProblems.Matcher
