import LogProblems.Proofs.Matcher.Combined

/-!
# The same numbers in one group and in several

A location is captured as one text with numbers in it, or number by number, each in a group
of its own.  The one way writes all four ends at once; the other lays a line over the range
that it finds and refines it end by end.  For numbers that fit a word both come to the same,
and both keep the order of the numbers: counting down passes over the end of a line, and
still no number overtakes a greater one.

* `IsNumeral.positionIn_eq`: a group that holds digits holds the number that they write;
* `position_mono`: greater numbers mean no smaller positions;
* `combined_agrees_with_discrete`: the two ways agree;
* `captured_ranges_ordered`: ranges end where they start, or after.
-/

set_option autoImplicit false

namespace LogProblems.Matcher

open LogProblems.Text

/-! ## Numerals -/

/-- Decimal digits that write a number of at most 63 bits. -/
structure IsNumeral (run : List Char) : Prop where
  ne_nil : run ≠ []
  digits : ∀ c ∈ run, c.isDigit = true
  lt : decimal run < 2 ^ 63

instance (run : List Char) : Decidable (IsNumeral run) :=
  decidable_of_iff (run ≠ [] ∧ run.all Char.isDigit = true ∧ decimal run < 2 ^ 63)
    ⟨fun ⟨hne, hdigits, hlt⟩ => ⟨hne, List.all_eq_true.1 hdigits, hlt⟩,
      fun h => ⟨h.ne_nil, List.all_eq_true.2 h.digits, h.lt⟩⟩

/-- The group of the end holds the characters, and nothing else. -/
def DiscreteGroups.Captures (d : DiscreteGroups) (groups : Groups) (e : Endpoint)
    (run : List Char) : Prop :=
  (d.groupOf e).bind groups.get? = some (String.ofList run)

instance (d : DiscreteGroups) (groups : Groups) (e : Endpoint) (run : List Char) :
    Decidable (d.Captures groups e run) :=
  inferInstanceAs (Decidable (_ = some (String.ofList run)))

theorem toNat_of_isDigit {c : Char} (h : c.isDigit = true) : 48 ≤ c.toNat ∧ c.toNat ≤ 57 := by
  simpa [Char.isDigit, UInt32.le_iff_toNat_le] using h

theorem isBlank_of_isDigit {c : Char} (h : c.isDigit = true) : isBlank c = false := by
  obtain ⟨hlow, hhigh⟩ := toNat_of_isDigit h
  simp only [isBlank, Bool.or_eq_false_iff, Bool.and_eq_false_iff, decide_eq_false_iff_not,
    beq_eq_false_iff_ne]
  omega

theorem trimChars_of_digits {run : List Char} (h : ∀ c ∈ run, c.isDigit = true) :
    trimChars run = run := by
  have hkeep : ∀ cs : List Char, (∀ c ∈ cs, c.isDigit = true) → cs.dropWhile isBlank = cs := by
    intro cs hcs
    cases cs with
    | nil => rfl
    | cons c cs =>
      rw [List.dropWhile_cons_of_neg]
      rw [isBlank_of_isDigit (hcs c List.mem_cons_self)]
      decide
  have hreverse : ∀ c ∈ run.reverse, c.isDigit = true := fun c hc => h c (List.mem_reverse.1 hc)
  rw [trimChars, hkeep run h, hkeep _ hreverse, List.reverse_reverse]

namespace IsNumeral

variable {run : List Char}

/-- Digits carry no sign, so they are read as they stand. -/
theorem readInt64?_eq (h : IsNumeral run) : readInt64? run = some (decimal run : Int) := by
  have hfits : (decimal run : Int) ≤ int64Max := by
    have := h.lt
    rw [int64Max]
    omega
  have hread : readDigits? false run = some (decimal run : Int) := by
    rw [readDigits?_of_digits h.ne_nil h.digits, if_pos hfits]
  unfold readInt64?
  split
  · next digits =>
    have hsign := h.digits '-' List.mem_cons_self
    cases hsign
  · next digits =>
    have hsign := h.digits '+' List.mem_cons_self
    cases hsign
  · exact hread

theorem positionIn_eq {d : DiscreteGroups} {groups : Groups} {e : Endpoint} (h : IsNumeral run)
    (hcaptures : d.Captures groups e run) :
    positionIn groups (d.groupOf e) = some (decimal run : Int) := by
  rw [positionIn, hcaptures, Option.bind_some, readPosition?, String.toList_ofList,
    trimChars_of_digits h.digits, h.readInt64?_eq]

end IsNumeral

/-! ## Ends of their own -/

section Ends

variable {d : DiscreteGroups} {groups : Groups} {v : Int}

theorem lastWrite_endLine (hline : positionIn groups d.line = some v)
    (hend : positionIn groups d.endLine = none) :
    lastWrite .endLine ((LocationCapture.discrete d).writes groups) = some v := by
  simp only [LocationCapture.writes, lastWrite_append, lastWrite_own, hline, hend]
  simp [lastWrite]

/-- Without an end column, the problem reaches the end of the line. -/
theorem lastWrite_endChar (hline : positionIn groups d.line = some v)
    (hend : positionIn groups d.endColumn = none) :
    lastWrite .endChar ((LocationCapture.discrete d).writes groups) = some (lineEnd : Int) := by
  simp only [LocationCapture.writes, lastWrite_append, lastWrite_own, hline, hend]
  simp [lastWrite]

theorem get_of_captures {e : Endpoint} {run : List Char} (h : IsNumeral run)
    (hcaptures : d.Captures groups e run) (indexing : Indexing) (r : WorkingRange) :
    (resolveLocation (.discrete d) groups indexing r).get e
      = e.position indexing (decimal run) := by
  rw [get_resolveLocation_discrete (lastWrite_discrete (h.positionIn_eq hcaptures)),
    Endpoint.settle_natCast]

end Ends

/-! ## The same numbers -/

/-- **The same numbers give the same range.**

Let the text of a combined location have four runs of digits, whatever stands between them,
and let four groups of a match hold those digits, one for each end.  If the numbers fit
words, the combined location and the four groups lead to the same range, whatever ranges the
two steps find.  A lone number that fits, in a combined location and in a group for a line,
leads to the same ends but for the start column, which a line leaves as it was. -/
theorem combined_agrees_with_discrete {group : Nat} {groups : Groups} {text : String}
    (htext : groups.get? group = some text) (groups' : Groups) (indexing : Indexing)
    (r r' : WorkingRange) :
    (∀ (a b c d : List Char) (line column endLine endColumn : Nat),
      Runs text.toList [a, b, c, d] →
      IsNumeral a → IsNumeral b → IsNumeral c → IsNumeral d →
      groups'.get? line = some (String.ofList a) → groups'.get? column = some (String.ofList b) →
      groups'.get? endLine = some (String.ofList c) →
      groups'.get? endColumn = some (String.ofList d) →
      resolveLocation (.combined group) groups indexing r
        = resolveLocation (.discrete { line, column, endLine, endColumn }) groups' indexing r') ∧
    ∀ (n : List Char) (line : Nat),
      Runs text.toList [n] → IsNumeral n → groups'.get? line = some (String.ofList n) →
      ∀ e : Endpoint, e ≠ .startChar →
        (resolveLocation (.combined group) groups indexing r).get e
          = (resolveLocation (.discrete { line }) groups' indexing r').get e := by
  have hread : (groups.get? group).getD "1,1,1,1" = text := by rw [htext, Option.getD_some]
  constructor
  · intro a b c d line column endLine endColumn hruns ha hb hc hd hline hcolumn hendLine hendColumn
    apply WorkingRange.ext_get
    intro e
    rw [get_resolveLocation_combined (hread ▸ hruns)]
    let ends : DiscreteGroups := { line, column, endLine, endColumn }
    symm
    cases e with
    | startLine =>
      have hcaptures : ends.Captures groups' .startLine a := hline
      exact get_of_captures ha hcaptures indexing r'
    | startChar =>
      have hcaptures : ends.Captures groups' .startChar b := hcolumn
      exact get_of_captures hb hcaptures indexing r'
    | endLine =>
      have hcaptures : ends.Captures groups' .endLine c := hendLine
      exact get_of_captures hc hcaptures indexing r'
    | endChar =>
      have hcaptures : ends.Captures groups' .endChar d := hendColumn
      exact get_of_captures hd hcaptures indexing r'
  · intro n line hruns hn hgroup e he
    have hcaptures : ({ line } : DiscreteGroups).Captures groups' .startLine n := hgroup
    have hline := hn.positionIn_eq hcaptures
    rw [get_resolveLocation_combined (hread ▸ hruns)]
    cases e with
    | startLine =>
      rw [get_of_captures hn hcaptures]
      rfl
    | startChar => exact absurd rfl he
    | endLine =>
      rw [get_resolveLocation_discrete (lastWrite_endLine hline rfl), Endpoint.settle_natCast]
      rfl
    | endChar =>
      rw [get_resolveLocation_discrete (lastWrite_endChar hline rfl), Endpoint.settle_natCast]
      rfl

/-- Numbers padded with zeros, one before the end of all lines, that end itself and the
greatest word, in a text and in groups; and a lone number in brackets. -/
theorem combined_agrees_with_discrete_padded :
    ∃ (groups : Groups) (d : DiscreteGroups) (r : WorkingRange),
      groups = ⟨[some "(007:4294967294)..9223372036854775807,4294967295", some "007",
        some "4294967294", some "9223372036854775807", some "4294967295", some "[007]"]⟩ ∧
      d = { line := some 1, column := some 2, endLine := some 3, endColumn := some 4 } ∧
      r = { startLine := 9, startChar := 9, endLine := 9, endChar := 9 } ∧
      Runs "(007:4294967294)..9223372036854775807,4294967295".toList ["007".toList,
        "4294967294".toList, "9223372036854775807".toList, "4294967295".toList] ∧
      resolveLocation (.combined 0) groups {} {} = resolveLocation (.discrete d) groups {} r ∧
      Runs "[007]".toList ["007".toList] ∧
      ∀ e : Endpoint, e ≠ .startChar →
        (resolveLocation (.combined 5) groups {} {}).get e
          = (resolveLocation (.discrete { line := some 1 }) groups {} r).get e := by
  let groups : Groups := ⟨[some "(007:4294967294)..9223372036854775807,4294967295", some "007",
    some "4294967294", some "9223372036854775807", some "4294967295", some "[007]"]⟩
  let r : WorkingRange := { startLine := 9, startChar := 9, endLine := 9, endChar := 9 }
  have hruns : Runs "(007:4294967294)..9223372036854775807,4294967295".toList ["007".toList,
      "4294967294".toList, "9223372036854775807".toList, "4294967295".toList] :=
    runs_iff.2 (by decide +kernel)
  have hrun : Runs "[007]".toList ["007".toList] := runs_iff.2 (by decide +kernel)
  have hpadded : IsNumeral "007".toList := by decide +kernel
  have hgroup : ∀ text : String, some text = some (String.ofList text.toList) := by
    intro text
    rw [String.ofList_toList]
  obtain ⟨hends, -⟩ := @combined_agrees_with_discrete 0 groups _ rfl groups {} {} r
  obtain ⟨-, hlone⟩ := @combined_agrees_with_discrete 5 groups _ rfl groups {} {} r
  refine ⟨groups, _, r, rfl, rfl, rfl, hruns, ?_, hrun, hlone _ 1 hrun hpadded (hgroup _)⟩
  exact hends _ _ _ _ 1 2 3 4 hruns hpadded (by decide +kernel) (by decide +kernel)
    (by decide +kernel) (hgroup _) (hgroup _) (hgroup _) (hgroup _)

/-! ## The same order -/

theorem position_mono (indexing : Indexing) (e : Endpoint) {m n : Nat} (h : m ≤ n) :
    e.position indexing m ≤ e.position indexing n := by
  unfold Endpoint.position
  split
  · omega
  · split <;> split <;> omega

/-- What a range extends over. -/
inductive Axis where
  | lines
  | columns
  deriving DecidableEq, Repr, Inhabited

namespace Axis

/-- The end at which a range starts. -/
def start : Axis → Endpoint
  | lines => .startLine
  | columns => .startChar

/-- The end at which a range stops. -/
def stop : Axis → Endpoint
  | lines => .endLine
  | columns => .endChar

/-- If the numbers of a combined location tell both ends, they tell them in order: two or
three numbers are lines, of four and more the first and the third are, and the second and
the fourth are columns. -/
def InOrder : Axis → List Nat → Prop
  | lines, [first, last] => first ≤ last
  | lines, [first, last, _] => first ≤ last
  | lines, first :: _ :: last :: _ :: _ => first ≤ last
  | columns, _ :: first :: _ :: last :: _ => first ≤ last
  | _, _ => True

variable {axis : Axis}

theorem position_stop (indexing : Indexing) (n : Nat) :
    axis.stop.position indexing n = axis.start.position indexing n := by
  cases axis <;> rfl

theorem InOrder.writtenRange {ns : List Nat} (h : axis.InOrder ns) :
    axis.start.ofRange (writtenRange ns) ≤ axis.stop.ofRange (writtenRange ns) := by
  -- Fewer than four numbers tell no columns: the first one and the end of the line.
  have hcolumns : 1 ≤ lineEnd := by decide
  match axis, ns, h with
  | lines, [], _ => exact Nat.le_refl 1
  | lines, [line], _ => exact Nat.le_refl line
  | lines, [_, _], h => exact h
  | lines, [_, _, _], h => exact h
  | lines, _ :: _ :: _ :: _ :: _, h => exact h
  | columns, [], _ => exact Nat.le_refl 1
  | columns, [_], _ => exact hcolumns
  | columns, [_, _], _ => exact hcolumns
  | columns, [_, _, _], _ => exact hcolumns
  | columns, _ :: _ :: _ :: _ :: _, h => exact h

end Axis

/-- The match tells where the problem starts and stops on the axis, in order. -/
def LocationCapture.TellsInOrder (groups : Groups) (axis : Axis) : LocationCapture → Prop
  | .wholeFile => False
  | .combined group => ∃ text runs, groups.get? group = some text ∧ Runs text.toList runs ∧
      axis.InOrder (runs.map decimal)
  | .discrete d => ∃ first last, IsNumeral first ∧ d.Captures groups axis.start first ∧
      IsNumeral last ∧ d.Captures groups axis.stop last ∧ decimal first ≤ decimal last

theorem LocationCapture.TellsInOrder.get_le {capture : LocationCapture} {groups : Groups}
    {axis : Axis} (h : capture.TellsInOrder groups axis) (indexing : Indexing)
    (r : WorkingRange) :
    (resolveLocation capture groups indexing r).get axis.start
      ≤ (resolveLocation capture groups indexing r).get axis.stop := by
  cases capture with
  | wholeFile => cases h
  | combined group =>
    obtain ⟨text, runs, htext, hruns, horder⟩ := h
    have hread : (groups.get? group).getD "1,1,1,1" = text := by rw [htext, Option.getD_some]
    rw [get_resolveLocation_combined (hread ▸ hruns), get_resolveLocation_combined (hread ▸ hruns),
      axis.position_stop]
    exact Int.ofNat_le.2 (position_mono indexing axis.start horder.writtenRange)
  | discrete d =>
    obtain ⟨first, last, hfirst, hstart, hlast, hstop, hle⟩ := h
    rw [get_of_captures hfirst hstart, get_of_captures hlast hstop, axis.position_stop]
    exact Int.ofNat_le.2 (position_mono indexing axis.start hle)

/-- **Captured ranges keep their order.**

Whatever range a step finds and from where its positions are counted: if the numbers that
it captures tell the lines in order, the problem does not stop before the line where it
starts, and if they tell the columns in order, not before the column.  A line that comes
without an end line is where the problem starts and where it stops. -/
theorem captured_ranges_ordered (capture : LocationCapture) (groups : Groups)
    (indexing : Indexing) (r : WorkingRange) :
    (∀ axis : Axis, capture.TellsInOrder groups axis →
      (resolveLocation capture groups indexing r).get axis.start
        ≤ (resolveLocation capture groups indexing r).get axis.stop) ∧
    ∀ (d : DiscreteGroups) (v : Int), capture = .discrete d →
      positionIn groups d.line = some v → positionIn groups d.endLine = none →
      (resolveLocation capture groups indexing r).get .startLine
        = (resolveLocation capture groups indexing r).get .endLine := by
  constructor
  · intro axis h
    exact h.get_le indexing r
  · rintro d v rfl hline hend
    have hstart : positionIn groups (d.groupOf .startLine) = some v := hline
    rw [get_resolveLocation_discrete (lastWrite_discrete hstart),
      get_resolveLocation_discrete (lastWrite_endLine hline hend)]
    rfl

/-- Columns in order behind lines that are not, numbers on both sides of the end of all
lines, and a line below zero without an end line. -/
theorem captured_ranges_ordered_apart :
    ∃ (groups : Groups) (d : DiscreteGroups),
      groups = ⟨[some "9:99999999999999999999-8:099999999999999999999", some "4294967295",
        some "4294967296", some " -7 "]⟩ ∧
      d = { line := some 1, endLine := some 2 } ∧
      (LocationCapture.combined 0).TellsInOrder groups .columns ∧
      (resolveLocation (.combined 0) groups {} {}).get .startChar
        ≤ (resolveLocation (.combined 0) groups {} {}).get .endChar ∧
      (LocationCapture.discrete d).TellsInOrder groups .lines ∧
      (resolveLocation (.discrete d) groups {} {}).get .startLine
        ≤ (resolveLocation (.discrete d) groups {} {}).get .endLine ∧
      positionIn groups (some 3) = some (-7) ∧
      (resolveLocation (.discrete { line := some 3 }) groups {} {}).get .startLine
        = (resolveLocation (.discrete { line := some 3 }) groups {} {}).get .endLine := by
  let groups : Groups := ⟨[some "9:99999999999999999999-8:099999999999999999999",
    some "4294967295", some "4294967296", some " -7 "]⟩
  let d : DiscreteGroups := { line := some 1, endLine := some 2 }
  have hruns : Runs "9:99999999999999999999-8:099999999999999999999".toList
      ["9".toList, "99999999999999999999".toList, "8".toList,
        "099999999999999999999".toList] := runs_iff.2 (by decide +kernel)
  have hle : decimal "99999999999999999999".toList ≤ decimal "099999999999999999999".toList := by
    decide +kernel
  have hcolumns : (LocationCapture.combined 0).TellsInOrder groups .columns :=
    ⟨_, _, rfl, hruns, hle⟩
  have hlines : (LocationCapture.discrete d).TellsInOrder groups .lines :=
    ⟨"4294967295".toList, "4294967296".toList, by decide +kernel, by decide +kernel,
      by decide +kernel, by decide +kernel, by decide +kernel⟩
  have hline : positionIn groups (some 3) = some (-7) := by decide +kernel
  obtain ⟨hcombined, -⟩ := captured_ranges_ordered (.combined 0) groups {} {}
  obtain ⟨hdiscrete, -⟩ := captured_ranges_ordered (.discrete d) groups {} {}
  obtain ⟨-, halone⟩ := captured_ranges_ordered (.discrete { line := some 3 }) groups {} {}
  exact ⟨groups, d, rfl, rfl, hcolumns, hcombined .columns hcolumns, hlines,
    hdiscrete .lines hlines, hline, halone _ (-7) rfl hline rfl⟩

end LogProblems.Matcher
