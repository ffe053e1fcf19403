import LogProblems.Proofs.Text.Utf8
import LogProblems.Text.Lowercase

/-!
# Lower case and ASCII

The lower case of an ASCII character is the usual one.  That of any other character holds a
character that is not ASCII either, with one exception: the lower case of the Kelvin sign is
the letter `k`.  So a text that has an ASCII word for its lower case, and a word without a
`k`, is that word but for the case of ASCII letters, although a lower case may be longer than
the text and depend on neighbours.

* `shifted_of_not_ascii`: the runs that lead out of ASCII;
* `exists_mem_ofChar`: characters that are not ASCII;
* `ofText_eq_iff`: the texts whose lower case is a word.
-/

set_option autoImplicit false

namespace LogProblems.Text

/-- The character is ASCII. -/
def IsAscii (c : Char) : Prop := c.toNat < 128

instance (c : Char) : Decidable (IsAscii c) := inferInstanceAs (Decidable (_ < _))

/-- The texts are the same but for the case of ASCII letters. -/
def AsciiVariant (s t : String) : Prop :=
  s.toList.map Char.toLower = t.toList.map Char.toLower

instance (s t : String) : Decidable (AsciiVariant s t) := inferInstanceAs (Decidable (_ = _))

theorem isAscii_of_toLower {c : Char} (h : IsAscii c.toLower) : IsAscii c := by
  unfold Char.toLower at h
  split at h
  · next hcapital =>
    have hle : c.toNat ≤ 'Z'.toNat := UInt32.le_iff_toNat_le.1 hcapital.2
    exact Nat.lt_of_le_of_lt hle (by decide)
  · exact h

namespace Lowercase

/-! ## Single characters -/

theorem ofChar_ofNat : ∀ n < 128, ofChar (Char.ofNat n) = [(Char.ofNat n).toLower] := by
  decide +kernel

theorem ofChar_of_ascii {c : Char} (h : IsAscii c) : ofChar c = [c.toLower] := by
  have hchar := ofChar_ofNat c.toNat h
  rwa [Char.ofNat_toNat] at hchar

/-- The code point of the Kelvin sign. -/
def kelvin : Nat := 0x212A

/-- The letters of a run stay outside ASCII, and become characters. -/
def StaysOutside (r : Unicode.CaseRun) : Prop :=
  128 ≤ r.first + r.offset ∧
    (r.last + r.offset < 0xD800 ∨ 0xDFFF < r.first + r.offset ∧ r.last + r.offset < 0x110000)

instance (r : Unicode.CaseRun) : Decidable (StaysOutside r) :=
  inferInstanceAs (Decidable (_ ∧ _))

/-- Only the run of ASCII and the Kelvin sign lead into ASCII. -/
theorem staysOutside_of_mem_runs :
    ∀ r ∈ runs, r.last < 128 ∨ r.first = kelvin ∧ r.last = kelvin ∨ StaysOutside r := by
  decide +kernel

theorem shifted_of_not_ascii {n : Nat} (hvalid : n.isValidChar) (h : 128 ≤ n) (hne : n ≠ kelvin) :
    128 ≤ (Char.ofNat (Unicode.CaseRun.shifted runs n)).toNat := by
  unfold Unicode.CaseRun.shifted
  split
  · next r hfind =>
    have hcovers := List.find?_some hfind
    simp only [Unicode.CaseRun.covers, Bool.and_eq_true, decide_eq_true_eq] at hcovers
    obtain ⟨⟨hfirst, hlast⟩, -⟩ := hcovers
    rcases staysOutside_of_mem_runs r (List.mem_of_find?_eq_some hfind) with
      hlow | ⟨hk, hk'⟩ | ⟨hout, hscalar⟩
    · omega
    · omega
    · have hshift : (r.shift n).isValidChar := by
        unfold Nat.isValidChar Unicode.CaseRun.shift
        omega
      rw [Utf8.toNat_ofNat_of_isValidChar hshift]
      unfold Unicode.CaseRun.shift
      omega
  · rwa [Utf8.toNat_ofNat_of_isValidChar hvalid]

/-- Outside ASCII a lower case is not ASCII, but for that of the Kelvin sign. -/
theorem exists_mem_ofChar {c : Char} (h : ¬ IsAscii c) : ∃ x ∈ ofChar c, ¬ IsAscii x ∨ x = 'k' := by
  unfold ofChar
  by_cases hdotted : c.toNat = 0x130
  · exact ⟨Char.ofNat 0x307, by simp [hdotted], .inl (by decide)⟩
  · refine ⟨Char.ofNat (Unicode.CaseRun.shifted runs c.toNat), by simp [hdotted], ?_⟩
    by_cases hk : c.toNat = kelvin
    · rw [hk]
      exact .inr (by decide +kernel)
    · exact .inl (Nat.not_lt.2 (shifted_of_not_ascii c.valid (Nat.not_lt.1 h) hk))

/-- Neighbours do not count for ASCII. -/
theorem ofCharAmong_of_ascii (before : List Char) {c : Char} (after : List Char) (h : IsAscii c) :
    ofCharAmong before c after = [c.toLower] := by
  have hne : c.toNat ≠ 0x3A3 := by
    unfold IsAscii at h
    omega
  rw [ofCharAmong, if_neg (by simp [hne]), ofChar_of_ascii h]

theorem exists_mem_ofCharAmong (before : List Char) {c : Char} (after : List Char)
    (h : ¬ IsAscii c) : ∃ x ∈ ofCharAmong before c after, ¬ IsAscii x ∨ x = 'k' := by
  unfold ofCharAmong
  split
  · exact ⟨_, List.mem_singleton_self _, .inl (by decide)⟩
  · exact exists_mem_ofChar h

/-! ## Texts -/

theorem ofChars_of_ascii (before : List Char) {cs : List Char} (h : ∀ c ∈ cs, IsAscii c) :
    ofChars before cs = cs.map Char.toLower := by
  induction cs generalizing before with
  | nil => rfl
  | cons c after ih =>
    obtain ⟨hc, hafter⟩ := List.forall_mem_cons.1 h
    rw [ofChars, ofCharAmong_of_ascii before after hc, ih _ hafter, List.map_cons,
      List.singleton_append]

/-- A lower case that is ASCII and without a `k` is that of an ASCII text. -/
theorem isAscii_of_ofChars (before : List Char) {cs : List Char}
    (h : ∀ x ∈ ofChars before cs, IsAscii x ∧ x ≠ 'k') : ∀ c ∈ cs, IsAscii c := by
  induction cs generalizing before with
  | nil => exact fun c hc => absurd hc List.not_mem_nil
  | cons c after ih =>
    rw [ofChars, List.forall_mem_append] at h
    obtain ⟨hc, hafter⟩ := h
    refine List.forall_mem_cons.2 ⟨?_, ih (c :: before) hafter⟩
    by_contra hnot
    obtain ⟨x, hx, houtside⟩ := exists_mem_ofCharAmong before after hnot
    obtain ⟨hascii, hne⟩ := hc x hx
    exact houtside.elim (fun h => h hascii) hne

/-- A word of small ASCII letters other than `k`. -/
def IsPlain (word : String) : Prop :=
  word.toList.all (fun c => decide (IsAscii c) && c != 'k' && c.toLower == c) = true

instance (word : String) : Decidable (IsPlain word) := inferInstanceAs (Decidable (_ = true))

theorem IsPlain.of_mem {word : String} (h : IsPlain word) {c : Char} (hc : c ∈ word.toList) :
    (IsAscii c ∧ c ≠ 'k') ∧ c.toLower = c := by
  simpa using List.all_eq_true.1 h c hc

theorem IsPlain.map_toLower {word : String} (h : IsPlain word) :
    word.toList.map Char.toLower = word.toList := by
  conv_rhs => rw [← List.map_id word.toList]
  exact List.map_congr_left fun c hc => (h.of_mem hc).2

/-- The texts that differ from a plain word in the case of ASCII letters are ASCII. -/
theorem isAscii_of_asciiVariant {s word : String} (hword : IsPlain word)
    (h : AsciiVariant s word) : ∀ c ∈ s.toList, IsAscii c := by
  rw [AsciiVariant, hword.map_toLower] at h
  intro c hc
  have hlower : c.toLower ∈ word.toList := h ▸ List.mem_map_of_mem hc
  exact isAscii_of_toLower (hword.of_mem hlower).1.1

/-- The texts whose lower case is a plain word are those that differ from it in the case of
ASCII letters. -/
theorem ofText_eq_iff {word : String} (hword : IsPlain word) (s : String) :
    ofText s = word ↔ AsciiVariant s word := by
  constructor
  · intro h
    have hchars : ofChars [] s.toList = word.toList := by
      rw [← h, ofText, String.toList_ofList]
    have hascii : ∀ c ∈ s.toList, IsAscii c := by
      refine isAscii_of_ofChars [] ?_
      rw [hchars]
      exact fun c hc => (hword.of_mem hc).1
    rw [AsciiVariant, hword.map_toLower, ← ofChars_of_ascii [] hascii, hchars]
  · intro h
    rw [ofText, ofChars_of_ascii [] (isAscii_of_asciiVariant hword h), h, hword.map_toLower,
      String.ofList_toList]

end Lowercase

end LogProblems.Text
