import LogProblems.Proofs.Matcher.Range

/-!
# Positions at the edge of a word

Captured positions are signed words of 64 bits, and counting one down is done in such
words.  It leaves them in one place only: the least word has none before it, and what
comes out in its stead is the greatest, so that a position far too small is taken for one
far too large.  A combined location holds no sign and cannot get there; a position in a
group of its own can.

To see where the words are left, the ends of a range are written once more with every
subtraction watched: `resolveLocation?` has no result where one does not fit.

* `isWord_of_positionIn` and `combinedRange_get_mem`: captured positions are words;
* `foldlM_write?`: writing with every subtraction watched;
* `resolve_position`: what a position of its own leaves at its end;
* `positions_stay_words_iff`: where the words are left, and what small positions come to;
* `least_position_wraps`: the least word, for a line.
-/

set_option autoImplicit false

namespace LogProblems.Matcher

open LogProblems.Text

/-! ## Words -/

/-- A signed number of 64 bits. -/
def IsWord (v : Int) : Prop :=
  int64Min ≤ v ∧ v ≤ int64Max

instance (v : Int) : Decidable (IsWord v) :=
  inferInstanceAs (Decidable (int64Min ≤ v ∧ v ≤ int64Max))

theorem readDigits?_eq_some_iff {negative : Bool} {digits : List Char} {v : Int} :
    readDigits? negative digits = some v ↔
      (digits.isEmpty || !digits.all isDigit) = false ∧
        v = (if negative then -(digitsValue digits : Int) else digitsValue digits) ∧
        IsWord v := by
  rw [readDigits?, Option.ite_none_left_eq_some, Bool.not_eq_true]
  refine and_congr_right fun _ => ?_
  dsimp only
  rw [Option.ite_none_right_eq_some, Option.some.injEq]
  constructor
  · rintro ⟨hword, rfl⟩
    exact ⟨rfl, hword⟩
  · rintro ⟨rfl, hword⟩
    exact ⟨hword, rfl⟩

theorem isWord_of_readInt64? {cs : List Char} {v : Int} (h : readInt64? cs = some v) :
    IsWord v := by
  unfold readInt64? at h
  split at h
  · exact (readDigits?_eq_some_iff.1 h).2.2
  · exact (readDigits?_eq_some_iff.1 h).2.2
  · exact (readDigits?_eq_some_iff.1 h).2.2

theorem isWord_of_positionIn {groups : Groups} {group : Option Nat} {v : Int}
    (h : positionIn groups group = some v) : IsWord v := by
  obtain ⟨text, -, htext⟩ := Option.bind_eq_some_iff.1 h
  exact isWord_of_readInt64? htext

theorem runValue_mem (run : List Char) : 0 ≤ runValue run ∧ runValue run ≤ int64Max := by
  unfold runValue
  cases hread : readDigits? false run with
  | none => exact ⟨by decide, by decide⟩
  | some v =>
    obtain ⟨-, hvalue, hword⟩ := readDigits?_eq_some_iff.1 hread
    refine ⟨?_, hword.2⟩
    rw [Option.getD_some, hvalue]
    exact Int.natCast_nonneg _

theorem combinedRange_get_mem (text : String) (e : Endpoint) :
    0 ≤ (combinedRange text).get e ∧ (combinedRange text).get e ≤ int64Max := by
  have hruns : ∀ v ∈ (digitRuns text).map runValue, 0 ≤ v ∧ v ≤ int64Max := by
    intro v hv
    obtain ⟨run, -, rfl⟩ := List.mem_map.1 hv
    exact runValue_mem run
  have hone : (0 : Int) ≤ 1 ∧ (1 : Int) ≤ int64Max := by decide
  have hend : (0 : Int) ≤ lineEnd ∧ (lineEnd : Int) ≤ int64Max := by decide
  unfold combinedRange
  split <;> next heq =>
    rw [heq] at hruns
    cases e <;> simp_all [WorkingRange.get]

/-! ## Ends with a group of their own -/

/-- The group that holds an end. -/
def DiscreteGroups.groupOf (d : DiscreteGroups) : Endpoint → Option Nat
  | .startLine => d.line
  | .startChar => d.column
  | .endLine => d.endLine
  | .endChar => d.endColumn

/-- What a step with a group for each end writes: what the groups hold, and for a line
also the end line and the end of the line. -/
theorem mem_writes_discrete {d : DiscreteGroups} {groups : Groups} {w : Write} :
    w ∈ (LocationCapture.discrete d).writes groups ↔
      positionIn groups (d.groupOf w.endpoint) = some w.value ∨
      (w.endpoint = .endLine ∧ positionIn groups d.line = some w.value) ∨
      (w.endpoint = .endChar ∧ w.value = lineEnd ∧ (positionIn groups d.line).isSome) := by
  obtain ⟨e, v⟩ := w
  simp only [LocationCapture.writes, List.mem_append, Option.mem_toList, Option.map_eq_some_iff]
  cases e <;> simp only [DiscreteGroups.groupOf]
  all_goals cases positionIn groups d.line <;> simp [eq_comm, or_comm]

theorem lastWrite_own (e e' : Endpoint) (position : Option Int) :
    lastWrite e (position.map (Write.mk e')).toList = if e' = e then position else none := by
  cases position <;> by_cases h : e' = e <;> simp [lastWrite, h]

/-- The last value written to an end is the one in its own group. -/
theorem lastWrite_discrete {d : DiscreteGroups} {groups : Groups} {e : Endpoint} {v : Int}
    (h : positionIn groups (d.groupOf e) = some v) :
    lastWrite e ((LocationCapture.discrete d).writes groups) = some v := by
  simp only [LocationCapture.writes, lastWrite_append, lastWrite_own]
  cases e with
  | startLine =>
    replace h : positionIn groups d.line = some v := h
    simp [h, lastWrite]
  | startChar =>
    replace h : positionIn groups d.column = some v := h
    simp [h]
  | endLine =>
    replace h : positionIn groups d.endLine = some v := h
    simp [h]
  | endChar =>
    replace h : positionIn groups d.endColumn = some v := h
    simp [h]

theorem value_of_mem_writes_combined {group : Nat} {groups : Groups} {w : Write}
    (h : w ∈ (LocationCapture.combined group).writes groups) :
    w.value = (combinedRange ((groups.get? group).getD "1,1,1,1")).get w.endpoint := by
  simp only [LocationCapture.writes, List.mem_cons, List.not_mem_nil, or_false] at h
  rcases h with rfl | rfl | rfl | rfl <;> rfl

theorem isWord_of_mem_writes {capture : LocationCapture} {groups : Groups} {w : Write}
    (h : w ∈ capture.writes groups) : IsWord w.value := by
  cases capture with
  | wholeFile => cases h
  | combined group =>
    rw [value_of_mem_writes_combined h]
    exact (combinedRange_get_mem _ _).imp_left (Int.le_trans (by decide))
  | discrete d =>
    rcases mem_writes_discrete.1 h with hown | ⟨-, hline⟩ | ⟨-, hend, -⟩
    · exact isWord_of_positionIn hown
    · exact isWord_of_positionIn hline
    · rw [hend]
      decide

/-! ## Counting down with overflow watched -/

/-- The position before `v`, unless the subtraction leaves the words. -/
def oneDown? (v : Int) : Option Int :=
  if v = lineEnd then some v
  else if IsWord (v - 1) then some (v - 1)
  else none

/-- A captured position, counted from zero afterwards, with overflow watched. -/
def lower? (counted : Bool) (v : Int) : Option Int :=
  if counted then oneDown? v else some v

/-- The write counts down from the least word. -/
def Write.wraps (indexing : Indexing) (w : Write) : Bool :=
  w.endpoint.countsFromOne indexing && w.value == int64Min

/-- Writes a captured value, counted from zero, with overflow watched. -/
def WorkingRange.write? (indexing : Indexing) (r : WorkingRange) (w : Write) :
    Option WorkingRange :=
  (lower? (w.endpoint.countsFromOne indexing) w.value).map (r.set w.endpoint)

/-- The range after a step, with every subtraction watched. -/
def resolveLocation? (capture : LocationCapture) (groups : Groups) (indexing : Indexing)
    (r : WorkingRange) : Option WorkingRange :=
  match capture with
  | .wholeFile => some r
  | .combined group =>
    (((LocationCapture.combined group).writes groups).foldlM (WorkingRange.write? indexing) r).map
      WorkingRange.clamp
  | .discrete d =>
    (((LocationCapture.discrete d).writes groups).foldlM (WorkingRange.write? indexing) r).map
      WorkingRange.clamp

section Watched

variable {indexing : Indexing} {r : WorkingRange} {groups : Groups} {capture : LocationCapture}

theorem isWord_pred_iff {v : Int} (h : IsWord v) : IsWord (v - 1) ↔ v ≠ int64Min := by
  unfold IsWord at *
  omega

theorem oneDown?_eq {v : Int} (h : IsWord v) :
    oneDown? v = if v = int64Min then none else some (oneDown v) := by
  rw [oneDown?, oneDown]
  by_cases hend : v = lineEnd
  · have hne : v ≠ int64Min := by
      rw [hend]
      decide
    rw [if_pos hend, if_pos hend, if_neg hne]
  · rw [if_neg hend, if_neg hend]
    by_cases hleast : v = int64Min
    · rw [if_pos hleast, if_neg (mt (isWord_pred_iff h).1 (not_not_intro hleast))]
    · rw [if_neg hleast, if_neg hleast, if_pos ((isWord_pred_iff h).2 hleast)]

/-- Writing with overflow watched fails at the least word, and else writes. -/
theorem write?_eq {w : Write} (h : IsWord w.value) :
    r.write? indexing w = if w.wraps indexing then none else some (r.write indexing w) := by
  rw [WorkingRange.write?, WorkingRange.write, Write.wraps, lower?, lower]
  cases w.endpoint.countsFromOne indexing with
  | false => rfl
  | true =>
    simp only [if_true, Bool.true_and, beq_iff_eq, oneDown?_eq h]
    rw [apply_ite (Option.map _)]
    rfl

theorem foldlM_write? {writes : List Write} (h : ∀ w ∈ writes, IsWord w.value) :
    writes.foldlM (WorkingRange.write? indexing) r
      = if writes.any (Write.wraps indexing) then none
        else some (writes.foldl (WorkingRange.write indexing) r) := by
  induction writes generalizing r with
  | nil => rfl
  | cons w rest ih =>
    obtain ⟨hw, hrest⟩ := List.forall_mem_cons.1 h
    rw [List.foldlM_cons, write?_eq hw, List.any_cons, List.foldl_cons]
    cases hwraps : w.wraps indexing with
    | true => rfl
    | false => exact ih hrest

/-- A step comes to the same with every subtraction watched, unless one overflows. -/
theorem resolveLocation?_eq (capture : LocationCapture) (groups : Groups) (indexing : Indexing)
    (r : WorkingRange) :
    resolveLocation? capture groups indexing r
      = if (capture.writes groups).any (Write.wraps indexing) then none
        else some (resolveLocation capture groups indexing r) := by
  have hwrites : ∀ w ∈ capture.writes groups, IsWord w.value := fun _ => isWord_of_mem_writes
  cases capture with
  | wholeFile => rfl
  | combined group =>
    rw [resolveLocation?, foldlM_write? hwrites, apply_ite (Option.map _)]
    rfl
  | discrete d =>
    rw [resolveLocation?, foldlM_write? hwrites, apply_ite (Option.map _), resolveLocation,
      resolveDiscrete_eq_foldl]
    rfl

end Watched

/-! ## Where the words are left -/

/-- A position that counts from one is the least word. -/
def LocationCapture.CountsFromLeast (groups : Groups) (indexing : Indexing) :
    LocationCapture → Prop
  | .wholeFile => False
  | .combined _ => False
  | .discrete d => ∃ e : Endpoint,
      e.countsFromOne indexing = true ∧ positionIn groups (d.groupOf e) = some int64Min

theorem Write.wraps_eq_true_iff {indexing : Indexing} {w : Write} :
    w.wraps indexing = true ↔ w.endpoint.countsFromOne indexing = true ∧ w.value = int64Min := by
  rw [wraps, Bool.and_eq_true, beq_iff_eq]

theorem any_wraps_iff {capture : LocationCapture} {groups : Groups} {indexing : Indexing} :
    (capture.writes groups).any (Write.wraps indexing) = true ↔
      capture.CountsFromLeast groups indexing := by
  rw [List.any_eq_true]
  simp only [Write.wraps_eq_true_iff]
  cases capture with
  | wholeFile => simp [LocationCapture.writes, LocationCapture.CountsFromLeast]
  | combined group =>
    refine iff_of_false ?_ id
    rintro ⟨w, hw, -, hleast⟩
    have hnatural := (combinedRange_get_mem ((groups.get? group).getD "1,1,1,1") w.endpoint).1
    rw [← value_of_mem_writes_combined hw, hleast] at hnatural
    exact absurd hnatural (by decide)
  | discrete d =>
    constructor
    · rintro ⟨w, hw, hcounts, hleast⟩
      rcases mem_writes_discrete.1 hw with hown | ⟨hend, hline⟩ | ⟨-, hend, -⟩
      · exact ⟨w.endpoint, hcounts, hleast ▸ hown⟩
      · -- A line is written to its own end too, and both ends count alike.
        rw [hend] at hcounts
        exact ⟨.startLine, hcounts, hleast ▸ hline⟩
      · rw [hend] at hleast
        exact absurd hleast (by decide)
    · rintro ⟨e, hcounts, hposition⟩
      exact ⟨⟨e, int64Min⟩, mem_writes_discrete.2 (Or.inl hposition), hcounts, rfl⟩

/-! ## Small positions -/

theorem clampPosition_oneDown {v : Int} (h : v ≤ 1) :
    clampPosition (oneDown v) = if v = int64Min then (lineEnd : Int) else 0 := by
  have hend : v ≠ lineEnd := by
    rintro rfl
    exact absurd h (by decide)
  rw [oneDown, if_neg hend]
  split
  · rfl
  · rw [clampPosition]
    omega

theorem get_resolveLocation_discrete {d : DiscreteGroups} {groups : Groups} {e : Endpoint} {v : Int}
    (h : lastWrite e ((LocationCapture.discrete d).writes groups) = some v) (indexing : Indexing)
    (r : WorkingRange) :
    (resolveLocation (.discrete d) groups indexing r).get e = e.settle indexing v := by
  rw [resolveLocation, resolveDiscrete_eq_foldl, WorkingRange.get_clamp,
    WorkingRange.get_foldl_write, h]
  rfl

/-- A position no greater than one leaves its own end at zero, unless it is the least. -/
theorem resolve_position {d : DiscreteGroups} {groups : Groups} {indexing : Indexing}
    {e : Endpoint} {v : Int} (hcounts : e.countsFromOne indexing = true)
    (hposition : positionIn groups (d.groupOf e) = some v) (hv : v ≤ 1) (r : WorkingRange) :
    (resolveLocation (.discrete d) groups indexing r).get e
      = if v = int64Min then (lineEnd : Int) else 0 := by
  rw [get_resolveLocation_discrete (lastWrite_discrete hposition), Endpoint.settle, if_pos hcounts]
  exact clampPosition_oneDown hv

/-- **Where counting positions leaves the words.**

Whatever a step captures, and whatever range it finds, every subtraction that it makes
fits a word, unless a position in a group of its own counts from one and is the least
word; with a combined location that cannot be.  A position no greater than one that counts
from one leaves its end at zero, with that one exception, which leaves it at the end of
all lines. -/
theorem positions_stay_words_iff (capture : LocationCapture) (groups : Groups)
    (indexing : Indexing) (r : WorkingRange) :
    (resolveLocation? capture groups indexing r
        = some (resolveLocation capture groups indexing r) ↔
      ¬ capture.CountsFromLeast groups indexing) ∧
    (resolveLocation? capture groups indexing r = none ↔
      capture.CountsFromLeast groups indexing) ∧
    ∀ (d : DiscreteGroups) (e : Endpoint) (v : Int), capture = .discrete d →
      e.countsFromOne indexing = true → positionIn groups (d.groupOf e) = some v → v ≤ 1 →
      (resolveLocation capture groups indexing r).get e
        = if v = int64Min then (lineEnd : Int) else 0 := by
  rw [resolveLocation?_eq, ← any_wraps_iff]
  refine ⟨?_, ?_, ?_⟩
  · cases (capture.writes groups).any (Write.wraps indexing) <;> simp
  · cases (capture.writes groups).any (Write.wraps indexing) <;> simp
  · rintro d e v rfl hcounts hposition hv
    exact resolve_position hcounts hposition hv r

/-- The word after the least one, for a line, and a column that is the least word: columns
that count from zero are not counted down. -/
theorem positions_stay_words_next :
    ∃ (capture : LocationCapture) (groups : Groups) (indexing : Indexing),
      capture = .discrete { line := some 1, column := some 2 } ∧
      groups = ⟨[some "x", some " -9223372036854775807 ", some "-9223372036854775808"]⟩ ∧
      indexing = { column := true } ∧
      positionIn groups (some 1) = some (int64Min + 1) ∧
      resolveLocation? capture groups indexing {}
        = some (resolveLocation capture groups indexing {}) ∧
      (resolveLocation capture groups indexing {}).get .startLine = 0 := by
  refine ⟨_, _, _, rfl, rfl, rfl, by decide, ?_⟩
  obtain ⟨hstays, -, hsmall⟩ := positions_stay_words_iff
    (.discrete { line := some 1, column := some 2 })
    ⟨[some "x", some " -9223372036854775807 ", some "-9223372036854775808"]⟩
    { column := true } {}
  refine ⟨hstays.2 ?_, ?_⟩
  · rintro ⟨e, hcounts, hleast⟩
    cases e with
    | startLine => exact absurd hleast (by decide)
    | startChar => exact absurd hcounts (by decide)
    | endLine => exact absurd hleast (by decide)
    | endChar => exact absurd hleast (by decide)
  · exact hsmall _ .startLine (int64Min + 1) rfl rfl (by decide) (by decide)

/-- The least word, for a line that counts from one: the subtraction does not fit a word,
and the problem is put at the end of all lines instead of at the first. -/
theorem least_position_wraps :
    ∃ (capture : LocationCapture) (groups : Groups) (r : WorkingRange),
      capture = .discrete { line := some 1 } ∧
      groups = ⟨[some "x", some "-9223372036854775808"]⟩ ∧
      positionIn groups (some 1) = some int64Min ∧
      resolveLocation? capture groups {} {} = none ∧
      resolveLocation capture groups {} {} = r ∧
      r = { startLine := lineEnd, startChar := 1, endLine := lineEnd, endChar := lineEnd } ∧
      r.get .startLine ≠ 0 :=
  ⟨_, _, _, rfl, rfl, by decide, by decide, rfl, by decide, by decide⟩

end LogProblems.Matcher
