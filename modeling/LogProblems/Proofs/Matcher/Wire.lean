import LogProblems.Document.Json.Reader
import LogProblems.Matcher.Compiled
import LogProblems.Matcher.Wire
import LogProblems.Proofs.Document.Spelling

/-!
# The one reading of a pattern

A pattern is a list of steps or one step, and a step is a record or a list of its fields in
order.  A list could be either, and is read as a list of steps where it can be.  Nothing
hangs on that: the first field of a step is a text or null, and neither is a step, so that
only the empty list can be both.

* `StepDefinition.ofValue?_of_spells`: the ways of writing a step;
* `Steps.ofValue?_of_spells` and `Steps.ofValue?_of_lone`: the ways of writing a pattern;
* `Steps.eq_nil_of_readings`: what has both readings;
* `ofNode?_of_patternAt`: a pattern in its matcher;
* `pattern_reads_one_way`: all of it.
-/

set_option autoImplicit false

namespace LogProblems.Matcher

open LogProblems.Document

/-! ## Writing a step -/

/-- The words as they are written. -/
def Words.value : Words → Value
  | .one word => .text word
  | .many words => .list (words.map .text)

theorem Words.ofValue?_value (words : Words) : Words.ofValue? words.value = some words := by
  cases words with
  | one word => rfl
  | many words =>
    have htexts : (words.map Value.text).mapM Value.text? = some words := by
      rw [List.mapM_map]
      exact (List.mapM_pure (f := id)).trans (congrArg some (List.map_id words))
    simp only [ofValue?, value, Value.texts?, htexts, Option.map_some]

namespace StepDefinition

/-- The values of the fields, in order. -/
def values (s : StepDefinition) : List (Option Value) :=
  [s.regexp.map .text, s.severity.map .index, s.code.map .index, s.file.map .index,
    s.location.map .index, s.line.map .index, s.endLine.map .index, s.column.map .index,
    s.endColumn.map .index, s.message.map .index, s.errorWords.map Words.value,
    s.warningWords.map Words.value, s.infoWords.map Words.value, s.kind.map .text,
    s.loop.map .bool]

/-- The value is a way of writing the step. -/
def SpelledBy (v : Value) (s : StepDefinition) : Prop :=
  Value.Spells fieldNames s.values v

variable {v item : Value} {items rest : List Value} {s : StepDefinition}

theorem ofSlots?_of_fills {slots : List (Option Value)}
    (h : List.Forall₂ Value.Fills slots s.values) : ofSlots? slots = some s := by
  have htext : ∀ {slot : Option Value} {field : Option String},
      Value.Fills slot (field.map .text) → Value.optional Value.text? slot = some field :=
    Value.optional_of_fills (fun _ => rfl) (fun _ h => by cases h)
  have hindex : ∀ {slot : Option Value} {field : Option Nat},
      Value.Fills slot (field.map .index) → Value.optional Value.index? slot = some field :=
    Value.optional_of_fills (fun _ => rfl) (fun _ h => by cases h)
  have hwords : ∀ {slot : Option Value} {field : Option Words},
      Value.Fills slot (field.map Words.value) →
        Value.optional Words.ofValue? slot = some field :=
    Value.optional_of_fills Words.ofValue?_value (fun words h => by cases words <;> cases h)
  have hbool : ∀ {slot : Option Value} {field : Option Bool},
      Value.Fills slot (field.map .bool) → Value.optional Value.bool? slot = some field :=
    Value.optional_of_fills (fun _ => rfl) (fun _ h => by cases h)
  obtain - | ⟨hregexp, h⟩ := h
  obtain - | ⟨hseverity, h⟩ := h
  obtain - | ⟨hcode, h⟩ := h
  obtain - | ⟨hfile, h⟩ := h
  obtain - | ⟨hlocation, h⟩ := h
  obtain - | ⟨hline, h⟩ := h
  obtain - | ⟨hendLine, h⟩ := h
  obtain - | ⟨hcolumn, h⟩ := h
  obtain - | ⟨hendColumn, h⟩ := h
  obtain - | ⟨hmessage, h⟩ := h
  obtain - | ⟨herrorWords, h⟩ := h
  obtain - | ⟨hwarningWords, h⟩ := h
  obtain - | ⟨hinfoWords, h⟩ := h
  obtain - | ⟨hkind, h⟩ := h
  obtain - | ⟨hloop, h⟩ := h
  cases h
  simp only [ofSlots?, htext hregexp, hindex hseverity, hindex hcode, hindex hfile,
    hindex hlocation, hindex hline, hindex hendLine, hindex hcolumn, hindex hendColumn,
    hindex hmessage, hwords herrorWords, hwords hwarningWords, hwords hinfoWords, htext hkind,
    hbool hloop, Option.bind_eq_bind, Option.bind_some, pure]

/-- A step is read in whatever way it is written. -/
theorem ofValue?_of_spells (h : SpelledBy v s) : ofValue? v = some s := by
  obtain ⟨filled, hfields, hfills⟩ := h.exists_fields? (by decide) rfl
  rw [ofValue?, hfields, Option.bind_some, ofSlots?_of_fills hfills]

/-! ## What is a step -/

theorem exists_regexp {slot : Option Value} {others : List (Option Value)}
    (h : ofSlots? (slot :: others) = some s) :
    ∃ regexp, Value.optional Value.text? slot = some regexp := by
  unfold ofSlots? at h
  split at h
  · next hslots =>
    obtain ⟨rfl, -⟩ := List.cons.inj hslots
    obtain ⟨regexp, hregexp, -⟩ := Option.bind_eq_some_iff.1 h
    exact ⟨regexp, hregexp⟩
  · cases h

theorem head_of_ofValue? (h : ofValue? (.list (item :: rest)) = some s) :
    item = .null ∨ ∃ t, item = .text t := by
  obtain ⟨slots, hslots, hstep⟩ := Option.bind_eq_some_iff.1 h
  rw [Value.fields?, Value.positional] at hslots
  split at hslots
  · obtain rfl := Option.some.inj hslots
    obtain ⟨regexp, hregexp⟩ := exists_regexp hstep
    cases item with
    | null => exact .inl rfl
    | text t => exact .inr ⟨t, rfl⟩
    | bool _ => cases hregexp
    | index _ => cases hregexp
    | number => cases hregexp
    | list _ => cases hregexp
    | record _ => cases hregexp
  · cases hslots

theorem ofValue?_head (h : ofValue? (.list (item :: rest)) = some s) : ofValue? item = none := by
  rcases head_of_ofValue? h with rfl | ⟨t, rfl⟩
  · rfl
  · rfl

/-- More values than there are fields are no step. -/
theorem ofValue?_of_length (h : 15 < items.length) : ofValue? (.list items) = none := by
  have hlong : ¬ items.length ≤ fieldNames.length := Nat.not_le.2 h
  rw [ofValue?, Value.fields?, Value.positional, if_neg hlong]
  rfl

end StepDefinition

/-! ## Patterns -/

namespace Steps

/-- Reads a pattern in the other order: one step if it is one, else a list of steps. -/
def oneFirst? (v : Value) : Option Steps :=
  match StepDefinition.ofValue? v with
  | some s => some (.one s)
  | none => (many? v).map .many

variable {v : Value} {items values : List Value} {steps : List StepDefinition}
  {s : StepDefinition}

theorem many?_eq_some_iff : many? (.list items) = some steps ↔
    List.Forall₂ (fun item s => StepDefinition.ofValue? item = some s) items steps := by
  rw [many?]
  induction items generalizing steps with
  | nil =>
    rw [List.mapM_nil, List.forall₂_nil_left_iff]
    exact Option.some_inj.trans eq_comm
  | cons item rest ih =>
    simp only [List.mapM_cons, bind, pure, Option.bind_eq_some_iff, ih, Option.some_inj,
      List.forall₂_cons_left_iff]
    constructor
    · rintro ⟨s, hs, rest', hrest, rfl⟩
      exact ⟨s, rest', hs, hrest, rfl⟩
    · rintro ⟨s, rest', hs, hrest, rfl⟩
      exact ⟨s, hs, rest', hrest, rfl⟩

theorem eq_nil_of_readings (hmany : many? v = some steps)
    (hone : StepDefinition.ofValue? v = some s) : v = .list [] := by
  cases v with
  | list items =>
    cases items with
    | nil => rfl
    | cons item rest =>
      obtain ⟨first, _, hfirst, -, -⟩ := List.forall₂_cons_left_iff.1 (many?_eq_some_iff.1 hmany)
      rw [StepDefinition.ofValue?_head hone] at hfirst
      cases hfirst
  | null => cases hmany
  | bool _ => cases hmany
  | index _ => cases hmany
  | number => cases hmany
  | text _ => cases hmany
  | record _ => cases hmany

theorem readings_iff :
    ((many? v).isSome = true ∧ (StepDefinition.ofValue? v).isSome = true) ↔ v = .list [] := by
  constructor
  · rintro ⟨hmany, hone⟩
    obtain ⟨steps, hmany⟩ := Option.isSome_iff_exists.1 hmany
    obtain ⟨s, hone⟩ := Option.isSome_iff_exists.1 hone
    exact eq_nil_of_readings hmany hone
  · rintro rfl
    exact ⟨rfl, rfl⟩

/-- What is tried first does not count, but for the empty list. -/
theorem oneFirst?_eq (h : v ≠ .list []) : oneFirst? v = ofValue? v := by
  unfold oneFirst? ofValue?
  cases hmany : many? v with
  | none => cases StepDefinition.ofValue? v <;> rfl
  | some steps =>
    cases hone : StepDefinition.ofValue? v with
    | none => rfl
    | some s => exact absurd (eq_nil_of_readings hmany hone) h

/-- A list of steps is read, in whatever way each of them is written. -/
theorem ofValue?_of_spells (h : List.Forall₂ StepDefinition.SpelledBy values steps) :
    ofValue? (.list values) = some (.many steps) := by
  have hmany : many? (.list values) = some steps :=
    many?_eq_some_iff.2 (h.imp fun _ _ => StepDefinition.ofValue?_of_spells)
  rw [ofValue?, hmany]

theorem ofValue?_of_lone (h : s.SpelledBy v) (hne : v ≠ .list []) :
    ofValue? v = some (.one s) := by
  have hone := StepDefinition.ofValue?_of_spells h
  rw [← oneFirst?_eq hne, oneFirst?, hone]

/-! ## Too many values -/

theorem many?_eq_none {item : Value} (hmem : item ∈ items)
    (hitem : StepDefinition.ofValue? item = none) : many? (.list items) = none := by
  cases hmany : many? (.list items) with
  | none => rfl
  | some steps =>
    obtain ⟨i, hi, rfl⟩ := List.getElem_of_mem hmem
    have hread := many?_eq_some_iff.1 hmany
    exact nomatch hitem.symm.trans (hread.get hi (hread.length_eq ▸ hi))

/-- More values than a step has fields are refused, unless they are steps themselves. -/
theorem ofValue?_of_length (h : 15 < items.length)
    (hitem : ∃ item ∈ items, StepDefinition.ofValue? item = none) :
    ofValue? (.list items) = none := by
  obtain ⟨item, hmem, hnone⟩ := hitem
  rw [ofValue?, many?_eq_none hmem hnone, StepDefinition.ofValue?_of_length h]
  rfl

/-- Nor are they a step among others. -/
theorem ofValue?_of_long_step {before after : List Value} (h : 15 < items.length)
    (hbefore : ∀ item ∈ before, (StepDefinition.ofValue? item).isSome = true) :
    ofValue? (.list (before ++ .list items :: after)) = none := by
  have hmany : many? (.list (before ++ .list items :: after)) = none :=
    many?_eq_none (List.mem_append_right _ List.mem_cons_self)
      (StepDefinition.ofValue?_of_length h)
  rw [ofValue?, hmany]
  cases hone : StepDefinition.ofValue? (.list (before ++ .list items :: after)) with
  | none => rfl
  | some s =>
    cases before with
    | nil =>
      rcases StepDefinition.head_of_ofValue? hone with hnull | ⟨t, htext⟩
      · cases hnull
      · cases htext
    | cons first others =>
      have hfirst := hbefore first List.mem_cons_self
      rw [StepDefinition.ofValue?_head hone] at hfirst
      cases hfirst

end Steps

/-! ## Patterns in their matchers -/

namespace Definition

variable {n p : Node} {v : Value} {d : Definition}

/-- The document is that of a matcher with this value for its pattern, and would be that of
`d` without it. -/
def PatternAt (d : Definition) (n : Node) (v : Value) : Prop :=
  ∃ slots p, n.fields? fieldNames = some (slots ++ [some p]) ∧
    Node.optional Node.free? (some p) = some (some v) ∧ ofSlots? (slots ++ [none]) = some d

theorem optional_free {α : Type} (read : Value → Option α)
    (h : Node.optional Node.free? (some p) = some (some v)) :
    Node.optional (free read) (some p) = (read v).map some := by
  have hread : ∀ q : Node, q.free?.map some = some (some v) →
      (free read q).map some = (read v).map some := by
    intro q hq
    obtain ⟨w, hw, hsome⟩ := Option.map_eq_some_iff.1 hq
    rw [free, hw, Option.some.inj hsome, Option.bind_some]
  cases p with
  | leaf l =>
    rw [Node.optional] at h ⊢
    cases hpresence : l.presence with
    | present =>
      rw [hpresence] at h
      exact hread _ h
    | absent =>
      rw [hpresence] at h
      cases h
    | refused =>
      rw [hpresence] at h
      cases h
  | list _ _ => exact hread _ h
  | record _ => exact hread _ h
  | marked q => exact hread q.marked h
  | unreadable => exact hread .unreadable h

theorem bind_of_bind {α β γ : Type} {a : Option α} {f : α → Option β} {g : α → Option γ} {b : β}
    {r : Option γ} (h : ∀ x, f x = some b → g x = r) : a >>= f = some b → a >>= g = r := by
  intro hf
  obtain ⟨x, rfl, hx⟩ := Option.bind_eq_some_iff.1 hf
  exact h x hx

/-- In its matcher, a pattern is read by itself. -/
theorem ofNode?_of_patternAt (h : d.PatternAt n v) :
    ofNode? n = (Steps.ofValue? v).map fun steps => { d with pattern := some steps } := by
  obtain ⟨slots, p, hfields, hpresent, hothers⟩ := h
  rw [ofNode?, hfields, Option.bind_some]
  unfold ofSlots? at hothers
  split at hothers
  · next title fileLocation zeroBased zeroBasedLines zeroBasedColumns source defaultSelected
      severity errorWords warningWords infoWords linkToLogFile pattern hslots =>
    have hsplit : slots ++ [none] = [title, fileLocation, zeroBased, zeroBasedLines,
        zeroBasedColumns, source, defaultSelected, severity, errorWords, warningWords, infoWords,
        linkToLogFile] ++ [pattern] := hslots
    obtain ⟨rfl, hnone⟩ := List.append_inj' hsplit rfl
    obtain rfl : none = pattern := List.singleton_inj.1 hnone
    -- The twelve fields before the pattern are read alike with it and without it.
    revert hothers
    iterate 12 refine bind_of_bind fun _ => ?_
    intro hd
    obtain rfl := Option.some.inj hd
    rw [optional_free _ hpresent]
    cases Steps.ofValue? v <;> rfl
  · cases hothers

end Definition

/-- **A pattern has one reading.**

No value but the empty list is both a list of steps and a step, so that for any other the
order in which the two are tried does not count; the empty list has no steps, and its matcher
does not compile.  In a matcher, a list of steps is read as these steps, and a step that
stands alone as this one, whether a step is written as a record or as a list of its fields.
More values than a step has fields are refused in the place of a step. -/
theorem pattern_reads_one_way {n : Node} {v : Value} {d : Definition} (h : d.PatternAt n v) :
    (∀ w, ((Steps.many? w).isSome = true ∧ (StepDefinition.ofValue? w).isSome = true) ↔
      w = .list []) ∧
    (∀ w, w ≠ .list [] → Steps.oneFirst? w = Steps.ofValue? w) ∧
    (v = .list [] → ∃ d', Definition.ofNode? n = some d' ∧ d'.steps = [] ∧
      ∀ place, compile d' place = .error (.noSteps (d'.titleAt place))) ∧
    (∀ values steps, v = .list values → List.Forall₂ StepDefinition.SpelledBy values steps →
      ∃ d', Definition.ofNode? n = some d' ∧ d'.steps = steps) ∧
    (∀ s : StepDefinition, s.SpelledBy v → v ≠ .list [] →
      ∃ d', Definition.ofNode? n = some d' ∧ d'.steps = [s]) ∧
    (∀ items, v = .list items → 15 < items.length →
      (∃ item ∈ items, StepDefinition.ofValue? item = none) → Definition.ofNode? n = none) ∧
    (∀ before items after, v = .list (before ++ .list items :: after) → 15 < items.length →
      (∀ item ∈ before, (StepDefinition.ofValue? item).isSome = true) →
        Definition.ofNode? n = none) := by
  have hread := Definition.ofNode?_of_patternAt h
  refine ⟨fun w => Steps.readings_iff, fun w => Steps.oneFirst?_eq, ?_, ?_, ?_, ?_, ?_⟩
  · rintro rfl
    exact ⟨_, hread, rfl, fun place => rfl⟩
  · rintro values steps rfl hsteps
    rw [Steps.ofValue?_of_spells hsteps] at hread
    exact ⟨_, hread, rfl⟩
  · intro s hs hne
    rw [Steps.ofValue?_of_lone hs hne] at hread
    exact ⟨_, hread, rfl⟩
  · rintro items rfl hlength hitem
    rw [hread, Steps.ofValue?_of_length hlength hitem]
    rfl
  · rintro before items after rfl hlength hbefore
    rw [hread, Steps.ofValue?_of_long_step hlength hbefore]
    rfl

/-- Three steps: one in order without its last fields, one under names among which one is
unknown and one stands for null, and one without any field. -/
theorem pattern_reads_one_way_mixed :
    ∃ (n : Node) (v : Value) (d d' : Definition) (text : String),
      d.PatternAt n v ∧ d.title = some "t" ∧ Definition.ofNode? n = some d' ∧
      d'.steps = [{ regexp := some "^A$", code := some 1 },
        { regexp := some "^B (.*)$", message := some 1, loop := some true }, {}] ∧
      text = "\x7b\"pattern\":[[\"^A$\",null,1],\x7b\"x\":[0],\"loop\":true,\"message\":1,"
        ++ "\"code\":null,\"regexp\":\"^B (.*)$\"\x7d,[]],\"title\":\"t\"\x7d" ∧
      (Json.read text).bind Definition.ofNode? = some d' := by
  let text : String :=
    "\x7b\"pattern\":[[\"^A$\",null,1],\x7b\"x\":[0],\"loop\":true,\"message\":1,"
      ++ "\"code\":null,\"regexp\":\"^B (.*)$\"\x7d,[]],\"title\":\"t\"\x7d"
  let word (s : String) : Node := Json.textNode (some s)
  let one : Node := Json.numeralNode (.natural 1)
  let pattern : Node := .list
    [.list [word "^A$", Json.nullNode, one] true,
      .record [(word "x", .list [Json.numeralNode (.natural 0)] true),
        (word "loop", Json.boolNode true), (word "message", one), (word "code", Json.nullNode),
        (word "regexp", word "^B (.*)$")],
      .list [] true] true
  let n : Node := .record [(word "pattern", pattern), (word "title", word "t")]
  let entries : List (String × Value) :=
    [("x", .list [.index 0]), ("loop", .bool true), ("message", .index 1), ("code", .null),
      ("regexp", .text "^B (.*)$")]
  let values : List Value :=
    [.list [.text "^A$", .null, .index 1], .record (Value.named entries), .list []]
  let steps : List StepDefinition :=
    [{ regexp := some "^A$", code := some 1 },
      { regexp := some "^B (.*)$", message := some 1, loop := some true }, {}]
  have hpattern : Definition.PatternAt { title := some "t" } n (.list values) :=
    ⟨some (word "t") :: List.replicate 11 none, pattern, rfl, rfl, rfl⟩
  have hspelled : List.Forall₂ StepDefinition.SpelledBy values steps := by
    refine .cons (.positional 3 ?_) (.cons (.record entries ?_) (.cons (.positional 0 ?_) .nil))
    · simp [StepDefinition.values]
    · simp [StepDefinition.fieldNames, StepDefinition.values, Value.under, Value.Fills, entries]
    · simp [StepDefinition.values]
  have htext : (Json.read text).bind Definition.ofNode? = Definition.ofNode? n := by
    decide +kernel
  obtain ⟨-, -, -, hsteps, -⟩ := pattern_reads_one_way hpattern
  obtain ⟨d', hread, hd'⟩ := hsteps values steps rfl hspelled
  exact ⟨n, .list values, _, d', text, hpattern, rfl, hread, hd', rfl, htext.trans hread⟩

end LogProblems.Matcher
