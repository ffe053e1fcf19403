import LogProblems.Proofs.Matcher.Block

/-!
# What a report tells

A matcher gathers a problem match by match, and each field follows a rule of its own.
Read off the matches as a whole, the severity, the code and the path are those of the
last match that captured one, and the message is made of all captured texts in order.
A step that continues a message has a say in the message only.

* `gather_severity`, `gather_code`, `gather_message`: what one match adds;
* `gathered_severity`, `gathered_code`, `gathered_path` and `gathered_message`: what a
  sequence of matches amounts to;
* `report_fields`: the reports of a whole run.
-/

set_option autoImplicit false

namespace LogProblems.Matcher

namespace Compiled

variable {m : Compiled} {number : Nat}

/-! ## Where reports come from -/

/-- The hits are of lines that follow one another, the first of them at the place
`start`, and each is of the step whose turn it is. -/
structure Follows (m : Compiled) (number : Nat) (lines : List String) (start : Nat)
    (hits : List Hit) : Prop where
  ne_nil : hits ≠ []
  turn : ∀ (k : Nat) (hit : Hit), hits[k]? = some hit →
    hit.number = number + start + k ∧ m.stepAt k = some hit.step
      ∧ (lines[start + k]?).bind hit.step.pattern.find = some hit.groups

theorem Follows.of_prefix {start : Nat} {lines : List String} {hits longer : List Hit}
    (h : m.Follows number lines start longer) (hinit : hits <+: longer) (hne : hits ≠ []) :
    m.Follows number lines start hits := by
  obtain ⟨later, rfl⟩ := hinit
  refine ⟨hne, fun k hit hk => h.turn k hit ?_⟩
  rw [List.getElem?_append_left (List.getElem?_eq_some_iff.1 hk).1, hk]

/-- Lines that stand before the others only shift the places. -/
theorem Follows.of_drop {start n : Nat} {lines : List String} {hits : List Hit}
    (h : m.Follows (number + n) (lines.drop n) start hits) :
    m.Follows number lines (n + start) hits := by
  refine ⟨h.ne_nil, fun k hit hk => ?_⟩
  obtain ⟨hnumber, hstep, hfind⟩ := h.turn k hit hk
  rw [List.getElem?_drop] at hfind
  exact ⟨by omega, hstep, by rwa [Nat.add_assoc]⟩

theorem hitsFrom_turn {lines : List String} :
    ∀ {k number j : Nat} {hit : Hit}, (m.hitsFrom k number lines)[j]? = some hit →
      hit.number = number + j ∧ m.stepAt (k + j) = some hit.step
        ∧ (lines[j]?).bind hit.step.pattern.find = some hit.groups := by
  induction lines with
  | nil =>
    intro k number j hit h
    cases h
  | cons line rest ih =>
    intro k number j hit h
    cases hstep : m.stepAt k with
    | none =>
      rw [hitsFrom_of_stepAt_none hstep] at h
      cases h
    | some step =>
      cases hfind : step.pattern.find line with
      | none =>
        rw [hitsFrom_of_unmatched hstep hfind] at h
        cases h
      | some groups =>
        rw [hitsFrom_of_match hstep hfind] at h
        cases j with
        | zero =>
          cases h
          exact ⟨rfl, hstep, hfind⟩
        | succ j =>
          obtain ⟨hnumber, hturn, hgroups⟩ := ih h
          exact ⟨by omega, by rwa [Nat.add_right_comm] at hturn, hgroups⟩

theorem exists_follows_of_mem_blocks {lines : List String} {b : Block}
    (h : b ∈ m.blocks number lines) : ∃ start, m.Follows number lines start b.hits := by
  induction number, lines using blocks.induct m with
  | case1 number =>
    rw [blocks] at h
    cases h
  | case2 number line rest hhits ih =>
    rw [blocks, hhits] at h
    obtain ⟨start, hfollows⟩ := ih h
    exact ⟨1 + start, Follows.of_drop (n := 1) hfollows⟩
  | case3 number line rest first later hhits ih =>
    rw [blocks_of_hits hhits] at h
    rcases List.mem_cons.1 h with rfl | h
    · refine ⟨0, by simp [blockOf], fun k hit hk => ?_⟩
      rw [blockOf, ← hhits] at hk
      simpa using hitsFrom_turn hk
    · obtain ⟨start, hfollows⟩ := ih h
      exact ⟨_, Follows.of_drop hfollows⟩

/-- A report tells of a beginning of the block, and of its first line at least. -/
theorem prefix_of_mem_reports (hm : m.Lawful) {b : Block} (hb : b.hits ≠ []) {hits : List Hit}
    (h : hits ∈ m.reports b) : hits <+: b.hits ∧ hits ≠ [] := by
  have hwhole : ∀ {hits : List Hit}, hits ∈ [b.hits] → hits <+: b.hits ∧ hits ≠ [] := by
    intro hits hmem
    rw [List.mem_singleton.1 hmem]
    exact ⟨List.prefix_refl _, hb⟩
  unfold reports at h
  split at h
  · split at h
    · exact hwhole h
    · split at h
      · exact hwhole h
      · cases h
  · split at h
    · exact hwhole h
    · obtain ⟨hinit, hlen⟩ := List.mem_filter.1 h
      have hpos := hm.steps_pos
      have hle : m.steps.length ≤ hits.length := of_decide_eq_true hlen
      exact ⟨(List.mem_inits _ _).1 hinit, List.ne_nil_of_length_pos (by omega)⟩

/-- What holds of every report that lines can give holds of all that a run reports. -/
theorem emissions_forall₂ (hm : m.Lawful) (context : Context) (number : Nat) (lines : List String)
    {P : List Hit → Emission → Prop}
    (hP : ∀ start hits, m.Follows number lines start hits → P hits (m.report context hits)) :
    ∃ es, State.blank.emissions m context number lines = .ok es ∧
      List.Forall₂ P ((m.blocks number lines).flatMap m.reports) es := by
  refine ⟨_, emissions_blank hm number lines, ?_⟩
  rw [← List.map_flatMap, List.forall₂_map_right_iff, List.forall₂_same]
  intro hits hmem
  obtain ⟨b, hb, hhits⟩ := List.mem_flatMap.1 hmem
  obtain ⟨start, hfollows⟩ := exists_follows_of_mem_blocks hb
  obtain ⟨hinit, hne⟩ := prefix_of_mem_reports hm hfollows.ne_nil hhits
  exact hP start hits (hfollows.of_prefix hinit hne)

end Compiled

/-! ## Captured texts -/

namespace Hit

/-- The text captured for a field; a step that continues a message captures none. -/
def captured (hit : Hit) (field : FieldGroups → Option Nat) : Option String :=
  (hit.step.fields?.bind field).bind hit.groups.get?

/-- The text captured for the message, by a step of either role. -/
def messageText (hit : Hit) : Option String :=
  hit.step.messageGroup.bind hit.groups.get?

end Hit

/-- The last severity that a captured word names. -/
def lastSeverity (indicators : Indicators) (hits : List Hit) : Option Severity :=
  (hits.filterMap fun hit => (hit.captured (·.severity)).bind indicators.classify).getLast?

/-- The severity of a report: the declared one, or the last that was captured, or none
that is known. -/
def Compiled.severityOf (m : Compiled) (hits : List Hit) : Severity :=
  match m.severity with
  | .fixed severity => severity.getD .hint
  | .captured indicators => (lastSeverity indicators hits).getD .hint
  | .unspecified => .hint

/-- The last code that was captured. -/
def lastCode (hits : List Hit) : Option String :=
  (hits.filterMap fun hit => hit.captured (·.code)).getLast?

/-- The last path that was captured and is not empty. -/
def lastFile (hits : List Hit) : Option String :=
  (hits.filterMap fun hit => (hit.captured (·.file)).filter (!·.isEmpty)).getLast?

/-- The captured texts of the message, trimmed, without those that are blank. -/
def fragments (hits : List Hit) : List String :=
  ((hits.filterMap Hit.messageText).map Text.trim).filter (!·.isEmpty)

theorem getLast?_filterMap_concat {α β : Type} (f : α → Option β) (as : List α) (a : α) :
    ((as ++ [a]).filterMap f).getLast? = (f a).or (as.filterMap f).getLast? := by
  cases h : f a <;> simp [h]

theorem fragments_append (hits later : List Hit) :
    fragments (hits ++ later) = fragments hits ++ fragments later := by
  simp only [fragments, List.filterMap_append, List.map_append, List.filter_append]

theorem fragments_singleton (hit : Hit) :
    fragments [hit] = (hit.messageText.toList.map Text.trim).filter (!·.isEmpty) := by
  cases h : hit.messageText <;> simp [fragments, h]

/-- The text of a report: the fragments with a space between them, or a text of its own
when there is none. -/
def messageOf (hits : List Hit) : String :=
  if fragments hits = [] then Message.defaultText else " ".intercalate (fragments hits)

/-- A captured path that is not empty resolves, unless captured paths are ignored. -/
theorem Context.exists_resolve (context : Context) {mode : PathMode} {captured : String}
    (hmode : mode ≠ .logFile) (hne : captured.isEmpty = false) :
    ∃ path, context.resolve mode captured = some path := by
  simp only [Context.resolve, hne, Bool.false_eq_true, if_false]
  cases mode with
  | logFile => exact absurd rfl hmode
  | absolute => exact ⟨_, rfl⟩
  | relative base => exact ⟨_, rfl⟩

theorem Context.resolve_of_isEmpty (context : Context) (mode : PathMode) {captured : String}
    (h : captured.isEmpty = true) : context.resolve mode captured = none := by
  simp only [Context.resolve, h, if_true]

/-! ## One match -/

namespace State

variable {s : State} {m : Compiled} {context : Context}

theorem gather_severity (s : State) (m : Compiled) (hit : Hit) (context : Context) :
    (s.gather m hit.step hit.groups hit.number context).severity
      = match m.severity with
        | .fixed severity => severity.getD s.severity
        | .captured indicators =>
          ((hit.captured (·.severity)).bind indicators.classify).getD s.severity
        | .unspecified => s.severity := by
  show m.severity.resolve (hit.step.fields?.bind (·.severity)) hit.groups s.severity = _
  cases m.severity <;> rfl

theorem gather_code (s : State) (m : Compiled) (hit : Hit) (context : Context) :
    (s.gather m hit.step hit.groups hit.number context).code
      = (hit.captured (·.code)).or s.code := rfl

theorem gather_message (s : State) (m : Compiled) (hit : Hit) (context : Context) :
    (s.gather m hit.step hit.groups hit.number context).message.fragments
      = s.message.fragments ++ fragments [hit] := by
  have hcaptured : hit.step.messageGroup.bind hit.groups.get? = hit.messageText := rfl
  simp only [gather, hcaptured, fragments_singleton]
  cases hit.messageText with
  | none => simp
  | some text => simp [Message.push_fragments]

/-- In the log, every match sets the path. -/
theorem gather_path_of_logFile (hmode : m.pathMode = .logFile) (hit : Hit) :
    (s.gather m hit.step hit.groups hit.number context).path = context.logFile := by
  show (s.locate m hit.step hit.groups hit.number context).path = _
  simp only [locate, hmode, if_true]

/-- Elsewhere, a match sets the path if it captured one that resolves. -/
theorem gather_path (hmode : m.pathMode ≠ .logFile) (hit : Hit) :
    (s.gather m hit.step hit.groups hit.number context).path
      = ((hit.captured (·.file)).bind (context.resolve m.pathMode)).getD s.path := by
  show (s.locate m hit.step hit.groups hit.number context).path = _
  simp only [locate, hmode, if_false, Hit.captured]
  cases hit.step.fields? <;> rfl

end State

/-! ## All matches of a report -/

namespace Compiled

variable {m : Compiled} {context : Context}

theorem gathered_severity (hits : List Hit) :
    (m.gathered context hits).severity = if hits = [] then .hint else m.severityOf hits := by
  induction hits using List.reverseRecOn with
  | nil => rfl
  | append_singleton hits hit ih =>
    have hone := State.gather_severity (m.gathered context hits) m hit context
    rw [gathered_concat, if_neg (by simp), severityOf]
    refine hone.trans ?_
    rw [ih, severityOf]
    cases m.severity with
    | fixed severity => cases severity <;> simp
    | captured indicators =>
      have hnil : hits = [] → lastSeverity indicators hits = none := by
        rintro rfl
        rfl
      show ((hit.captured (·.severity)).bind indicators.classify).getD
          (if hits = [] then .hint else (lastSeverity indicators hits).getD .hint)
        = (lastSeverity indicators (hits ++ [hit])).getD .hint
      rw [lastSeverity, lastSeverity, getLast?_filterMap_concat, ← lastSeverity, Option.getD_or]
      split
      · next heq => rw [hnil heq, Option.getD_none]
      · rfl
    | unspecified => simp

theorem gathered_code (hits : List Hit) : (m.gathered context hits).code = lastCode hits := by
  induction hits using List.reverseRecOn with
  | nil => rfl
  | append_singleton hits hit ih =>
    rw [gathered_concat, lastCode, getLast?_filterMap_concat, ← lastCode, ← ih]
    exact State.gather_code _ m hit context

theorem gathered_message (hits : List Hit) :
    (m.gathered context hits).message.fragments = fragments hits := by
  induction hits using List.reverseRecOn with
  | nil => rfl
  | append_singleton hits hit ih =>
    rw [gathered_concat, fragments_append, ← ih]
    exact State.gather_message _ m hit context

theorem report_message (hits : List Hit) :
    (m.report context hits).record.message = messageOf hits := by
  show (m.gathered context hits).message.text = _
  rw [Message.text, gathered_message, messageOf]
  simp only [List.isEmpty_iff]

theorem gathered_path_of_logFile (hmode : m.pathMode = .logFile) {hits : List Hit}
    (hne : hits ≠ []) : (m.gathered context hits).path = context.logFile := by
  induction hits using List.reverseRecOn with
  | nil => exact absurd rfl hne
  | append_singleton hits hit _ =>
    rw [gathered_concat]
    exact State.gather_path_of_logFile hmode hit

theorem gathered_path (hmode : m.pathMode ≠ .logFile) (hits : List Hit) :
    (lastFile hits = none → (m.gathered context hits).path = noFile) ∧
      ∀ captured, lastFile hits = some captured →
        context.resolve m.pathMode captured = some (m.gathered context hits).path := by
  induction hits using List.reverseRecOn with
  | nil =>
    refine ⟨fun _ => rfl, ?_⟩
    intro captured h
    cases h
  | append_singleton hits hit ih =>
    have hone : (m.gathered context (hits ++ [hit])).path
        = ((hit.captured (·.file)).bind (context.resolve m.pathMode)).getD
          (m.gathered context hits).path := by
      rw [gathered_concat]
      exact State.gather_path hmode hit
    rw [hone, lastFile, getLast?_filterMap_concat, ← lastFile]
    cases hfile : hit.captured (·.file) with
    | none => simpa using ih
    | some file =>
      cases hempty : file.isEmpty with
      | true =>
        have hnone : (some file).filter (!·.isEmpty) = none := by simp [Option.filter, hempty]
        rw [Option.bind_some, context.resolve_of_isEmpty m.pathMode hempty, hnone]
        exact ih
      | false =>
        obtain ⟨path, hpath⟩ := context.exists_resolve hmode hempty
        have hsome : (some file).filter (!·.isEmpty) = some file := by
          simp [Option.filter, hempty]
        rw [Option.bind_some, hpath, hsome]
        simp [hpath]

end Compiled

/-- **What a report tells, its range apart.**

Whatever lines a compiled matcher is given, it reports beginnings of its blocks, and
the fields of a report are read off the matches it is made of: the severity, the code
and the path go by the last match that captured one, the message is put together from
all of them, and the label is the matcher's.  In the log, the path is the log's.  A
group number past the groups of a match captures nothing. -/
theorem report_fields {d : Definition} {place : Nat} {m : Compiled}
    (h : compile d place = .ok m) (context : Context) (number : Nat) (lines : List String) :
    (∃ es, State.blank.emissions m context number lines = .ok es ∧
      List.Forall₂
        (fun hits e =>
          (∃ start, m.Follows number lines start hits) ∧
          e.record.source = m.source ∧
          e.record.severity = m.severityOf hits ∧
          e.record.code = lastCode hits ∧
          e.record.message = messageOf hits ∧
          (m.pathMode = .logFile → e.path = context.logFile) ∧
          (m.pathMode ≠ .logFile →
            (lastFile hits = none → e.path = noFile) ∧
            ∀ captured, lastFile hits = some captured →
              context.resolve m.pathMode captured = some e.path))
        ((m.blocks number lines).flatMap m.reports) es) ∧
    ∀ (groups : Groups) (group : Nat), groups.texts.length ≤ group → groups.get? group = none := by
  refine ⟨Compiled.emissions_forall₂ (compile_lawful h) context number lines ?_,
    fun _ _ => Groups.get?_of_length_le⟩
  intro start hits hfollows
  refine ⟨⟨start, hfollows⟩, rfl, ?_, Compiled.gathered_code hits, Compiled.report_message hits,
    fun hmode => Compiled.gathered_path_of_logFile hmode hfollows.ne_nil,
    fun hmode => Compiled.gathered_path hmode hits⟩
  exact (Compiled.gathered_severity hits).trans (if_neg hfollows.ne_nil)

theorem map_eq_of_forall₂ {α β γ : Type} {f : α → γ} {g : β → γ} {as : List α} {bs : List β}
    (h : List.Forall₂ (fun a b => g b = f a) as bs) : bs.map g = as.map f := by
  induction h with
  | nil => rfl
  | cons hhead _ ih => rw [List.map_cons, List.map_cons, hhead, ih]

/-- Two items under a heading: the second has a word that names no severity, so the one
of the first stays; its code replaces the first, and its text is added. -/
theorem report_fields_list :
    ∃ m es, compile { pattern := some (.many
        [{ regexp := some "^In (.*):$", file := some 1 },
          { regexp := some "^  (.*) (.*):(.*)$", severity := some 1, code := some 2,
            message := some 3, loop := some true }]) } 0 = .ok m ∧
      State.blank.emissions m {} 0 ["In a.c:", "  error E1: one", "  note E2: two "] = .ok es ∧
      es.map (fun e => (e.record.severity, e.record.code, e.record.message))
        = [(.error, some "E1", "one"), (.error, some "E2", "one two")] := by
  have hrun : (compile { pattern := some (.many
      [{ regexp := some "^In (.*):$", file := some 1 },
        { regexp := some "^  (.*) (.*):(.*)$", severity := some 1, code := some 2,
          message := some 3, loop := some true }]) } 0).toOption.map (fun m =>
        ((m.blocks 0 ["In a.c:", "  error E1: one", "  note E2: two "]).flatMap m.reports).map
          fun hits => (m.severityOf hits, lastCode hits, messageOf hits))
      = some [(.error, some "E1", "one"), (.error, some "E2", "one two")] := by
    decide +kernel
  obtain ⟨m, hcompile, hreports⟩ := exists_of_toOption_map hrun
  obtain ⟨⟨es, hes, hall⟩, _⟩ :=
    report_fields hcompile {} 0 ["In a.c:", "  error E1: one", "  note E2: two "]
  refine ⟨m, es, hcompile, hes, Eq.trans (map_eq_of_forall₂ (hall.imp ?_)) hreports⟩
  rintro hits e ⟨_, _, hseverity, hcode, hmessage, _⟩
  rw [hseverity, hcode, hmessage]

end LogProblems.Matcher
