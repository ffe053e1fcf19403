import Mathlib.Data.String.Basic
import LogProblems.Text.Utf8

/-!
# What octets are read as

Octets are read as the text that the standard asks for: where a character stands, it is
read, and elsewhere each maximal part becomes one replacement character.  The reader
keeps a window for the next octet; a window is right when the octets it lets in are
those that go on with a character.

* `Decodes`: how octets are read, by the octets of each character;
* `decodes_iff`: the reader reads octets in this way, which is the only one;
* `Decodes.append_ascii`: an octet below `80` is a character wherever it stands, so
  that what stands before it and what stands after it are read apart;
* `decode?_encode`: the octets of a text are read as the text.
-/

set_option autoImplicit false

namespace LogProblems.Text.Utf8

open String (utf8EncodeChar utf8EncodeChar_ne_nil)

/-! ## The octets of a character -/

theorem toNat_ofNat_of_isValidChar {n : Nat} (h : n.isValidChar) : (Char.ofNat n).toNat = n := by
  rw [Char.ofNat, dif_pos h]
  rfl

theorem toNat_octet {n : Nat} (h : n < 0x100) : (UInt8.ofNat n).toNat = n := by
  rw [UInt8.toNat_ofNat', Nat.mod_eq_of_lt h]

/-- The octets that hold the last `k` groups of six bits of a number. -/
def tails : Nat → Nat → List UInt8
  | 0, _ => []
  | k + 1, n => UInt8.ofNat (0x80 + n / 64 ^ k % 64) :: tails k n

theorem le_of_mem_tails {k n : Nat} {a : UInt8} (h : a ∈ tails k n) : 0x80 ≤ a.toNat := by
  induction k with
  | zero => cases h
  | succ k ih =>
    rcases List.mem_cons.1 h with rfl | h
    · rw [toNat_octet (by omega)]
      omega
    · exact ih h

/-- The octets of a character, by its number. -/
theorem utf8EncodeChar_cases (c : Char) :
    (c.toNat < 0x80 ∧ utf8EncodeChar c = [UInt8.ofNat c.toNat]) ∨
    (0x80 ≤ c.toNat ∧ c.toNat < 0x800 ∧
      utf8EncodeChar c = UInt8.ofNat (0xC0 + c.toNat / 64) :: tails 1 c.toNat) ∨
    (0x800 ≤ c.toNat ∧ c.toNat < 0x10000 ∧
      utf8EncodeChar c = UInt8.ofNat (0xE0 + c.toNat / 64 ^ 2) :: tails 2 c.toNat) ∨
    (0x10000 ≤ c.toNat ∧ c.toNat < 0x110000 ∧
      utf8EncodeChar c = UInt8.ofNat (0xF0 + c.toNat / 64 ^ 3) :: tails 3 c.toNat) := by
  have hvalid : c.toNat < 0xD800 ∨ 0xDFFF < c.toNat ∧ c.toNat < 0x110000 := c.valid
  have hval : c.val.toNat = c.toNat := rfl
  simp only [utf8EncodeChar, hval, tails, Nat.reducePow, Nat.div_one]
  generalize c.toNat = n at *
  split_ifs with hone htwo hthree
  · exact .inl ⟨by omega, rfl⟩
  · refine .inr (.inl ⟨by omega, by omega, ?_⟩)
    rw [Nat.mod_eq_of_lt (a := n / 64) (by omega), Nat.add_comm, Nat.add_comm (n % 64)]
  · refine .inr (.inr (.inl ⟨by omega, by omega, ?_⟩))
    rw [Nat.mod_eq_of_lt (a := n / 4096) (by omega), Nat.add_comm, Nat.add_comm (n % 64),
      Nat.add_comm (n / 64 % 64)]
  · refine .inr (.inr (.inr ⟨by omega, by omega, ?_⟩))
    rw [Nat.mod_eq_of_lt (a := n / 262144) (by omega), Nat.add_comm, Nat.add_comm (n % 64),
      Nat.add_comm (n / 64 % 64), Nat.add_comm (n / 4096 % 64)]

/-- The octets of one character do not begin those of another. -/
theorem eq_of_prefix {c c' : Char} {octets : List UInt8} (h : utf8EncodeChar c <+: octets)
    (h' : utf8EncodeChar c' <+: octets) : c = c' := by
  obtain ⟨rest, rfl⟩ := h
  obtain ⟨rest', heq⟩ := h'
  have hread : ∀ (c : Char) (rest : List UInt8),
      (utf8EncodeChar c ++ rest).toByteArray.utf8DecodeChar? 0 = some c := by
    intro c rest
    rw [List.toByteArray_append]
    exact ByteArray.utf8DecodeChar?_utf8EncodeChar_append
  have hboth := hread c' rest'
  rw [heq, hread c rest] at hboth
  exact Option.some.inj hboth

theorem toNat_ascii {a : UInt8} (ha : a < 0x80) : (Char.ofNat a.toNat).toNat = a.toNat :=
  toNat_ofNat_of_isValidChar (.inl (Nat.lt_trans (UInt8.lt_iff_toNat_lt.1 ha) (by decide)))

theorem utf8EncodeChar_ascii {a : UInt8} (ha : a < 0x80) :
    utf8EncodeChar (Char.ofNat a.toNat) = [a] := by
  have hlt : a.toNat < 0x80 := UInt8.lt_iff_toNat_lt.1 ha
  have hn := toNat_ascii ha
  rcases utf8EncodeChar_cases (Char.ofNat a.toNat) with ⟨_, h⟩ | h | h | h
  · rw [h, hn, UInt8.ofNat_toNat]
  all_goals omega

/-- An octet below `80` belongs to no longer character. -/
theorem eq_of_mem_ascii {a : UInt8} (ha : a < 0x80) {c : Char} (h : a ∈ utf8EncodeChar c) :
    c = Char.ofNat a.toNat := by
  have hlt : a.toNat < 0x80 := UInt8.lt_iff_toNat_lt.1 ha
  have hlong : ∀ n k, 0x80 ≤ n → n < 0x100 → a ∉ UInt8.ofNat n :: tails k c.toNat := by
    intro n k hle hn hmem
    rcases List.mem_cons.1 hmem with rfl | hmem
    · rw [toNat_octet hn] at hlt
      omega
    · have := le_of_mem_tails hmem
      omega
  rcases utf8EncodeChar_cases c with ⟨_, hc⟩ | ⟨_, _, hc⟩ | ⟨_, _, hc⟩ | ⟨_, _, hc⟩ <;> rw [hc] at h
  · rw [List.mem_singleton.1 h, toNat_octet (by omega), Char.ofNat_toNat]
  · exact absurd h (hlong _ _ (by omega) (by omega))
  · exact absurd h (hlong _ _ (by omega) (by omega))
  · exact absurd h (hlong _ _ (by omega) (by omega))

/-! ## Reading -/

/-- Some character starts with these octets. -/
def Begins (octets : List UInt8) : Prop :=
  ∃ c, octets <+: utf8EncodeChar c

/-- What becomes one replacement character where no character stands: the longest part
that begins a character, or one octet if there is none. -/
structure MaximalPart (part rest : List UInt8) : Prop where
  single_or_begins : part.length = 1 ∨ part ≠ [] ∧ Begins part
  no_char : ∀ c, ¬ utf8EncodeChar c <+: part ++ rest
  maximal : ∀ longer, longer <+: part ++ rest → part.length < longer.length → ¬ Begins longer

/-- How octets are read. -/
inductive Decodes : List UInt8 → List Char → Prop where
  | nil : Decodes [] []
  | char (c : Char) {rest : List UInt8} {text : List Char} :
      Decodes rest text → Decodes (utf8EncodeChar c ++ rest) (c :: text)
  | part {part rest : List UInt8} {text : List Char} :
      MaximalPart part rest → Decodes rest text → Decodes (part ++ rest) (replacement :: text)

namespace MaximalPart

variable {part rest part' rest' : List UInt8}

theorem ne_nil (h : MaximalPart part rest) : part ≠ [] := by
  rcases h.single_or_begins with hone | ⟨hne, _⟩
  · rintro rfl
    cases hone
  · exact hne

/-- A longer part is no part. -/
theorem length_le (h : MaximalPart part rest) (h' : MaximalPart part' rest')
    (heq : part ++ rest = part' ++ rest') : part'.length ≤ part.length := by
  by_contra hlt
  have hpos := List.length_pos_iff.2 h.ne_nil
  rcases h'.single_or_begins with hone | ⟨_, hbegins⟩
  · omega
  · exact h.maximal part' (heq ▸ List.prefix_append _ _) (by omega) hbegins

end MaximalPart

theorem Decodes.eq_nil_iff {octets : List UInt8} {text : List Char} (h : Decodes octets text) :
    text = [] ↔ octets = [] := by
  cases h with
  | nil => simp
  | char c => simp
  | part hpart => simp [hpart.ne_nil]

theorem Decodes.unique {octets : List UInt8} {text text' : List Char} (h : Decodes octets text)
    (h' : Decodes octets text') : text = text' := by
  induction h generalizing text' with
  | nil =>
    generalize hnil : ([] : List UInt8) = octets at h'
    cases h' with
    | nil => rfl
    | char c => exact absurd (List.append_eq_nil_iff.1 hnil.symm).1 utf8EncodeChar_ne_nil
    | part hpart => exact absurd (List.append_eq_nil_iff.1 hnil.symm).1 hpart.ne_nil
  | @char c rest text _ ih =>
    generalize hoctets : utf8EncodeChar c ++ rest = octets at h'
    cases h' with
    | nil => exact absurd (List.append_eq_nil_iff.1 hoctets).1 utf8EncodeChar_ne_nil
    | @char c' rest' text' hrest' =>
      obtain rfl : c = c' := eq_of_prefix ⟨rest, hoctets⟩ ⟨rest', rfl⟩
      rw [List.append_cancel_left hoctets] at ih
      rw [ih hrest']
    | part hpart => exact absurd ⟨rest, hoctets⟩ (hpart.no_char c)
  | @part part rest text hpart _ ih =>
    generalize hoctets : part ++ rest = octets at h'
    cases h' with
    | nil => exact absurd (List.append_eq_nil_iff.1 hoctets).1 hpart.ne_nil
    | char c => exact absurd ⟨_, hoctets.symm⟩ (hpart.no_char c)
    | @part part' rest' text' hpart' hrest' =>
      have hlength := Nat.le_antisymm (hpart'.length_le hpart hoctets.symm)
        (hpart.length_le hpart' hoctets)
      obtain ⟨_, rfl⟩ := List.append_inj hoctets hlength
      rw [ih hrest']

/-! ## The reader -/

namespace Begun

/-- The bits after one more octet. -/
def bitsWith (b : Begun) (a : UInt8) : Nat :=
  b.bits * 64 + (a.toNat - 0x80)

/-- The octets go on with what was begun, and finish the character. -/
def Finishes : Begun → List UInt8 → Char → Prop
  | _, [], _ => False
  | b, a :: later, c => (b.low ≤ a ∧ a ≤ b.high) ∧
    match b.owed with
    | 0 => later = [] ∧ c = Char.ofNat (b.bitsWith a)
    | owed + 1 => Finishes ⟨b.bitsWith a, owed, 0x80, 0xBF⟩ later c

theorem exists_finishes {b : Begun} (h : b.low ≤ b.high) : ∃ later c, b.Finishes later c := by
  obtain ⟨bits, owed, low, high⟩ := b
  induction owed generalizing bits low high with
  | zero => exact ⟨[low], _, ⟨UInt8.le_refl low, h⟩, rfl, rfl⟩
  | succ owed ih =>
    have htail : (0x80 : UInt8) ≤ 0xBF := by decide
    obtain ⟨later, c, hlater⟩ :=
      ih (Begun.bitsWith ⟨bits, owed + 1, low, high⟩ low) 0x80 0xBF htail
    exact ⟨low :: later, c, ⟨UInt8.le_refl low, h⟩, hlater⟩

/-- The octets so far, which begin just the characters that can be finished from here. -/
structure Follows (b : Begun) (sofar : List UInt8) : Prop where
  ne_nil : sofar ≠ []
  low_le : b.low ≤ b.high
  finishes_iff : ∀ later c, utf8EncodeChar c = sofar ++ later ↔ b.Finishes later c

namespace Follows

variable {b : Begun} {sofar : List UInt8} {a : UInt8}

theorem begins (h : b.Follows sofar) : Begins sofar := by
  obtain ⟨later, c, hfinishes⟩ := exists_finishes h.low_le
  exact ⟨c, later, ((h.finishes_iff later c).2 hfinishes).symm⟩

theorem no_char (h : b.Follows sofar) (c : Char) : ¬ utf8EncodeChar c <+: sofar := by
  rintro ⟨rest, rfl⟩
  obtain ⟨later, c', hfinishes⟩ := exists_finishes h.low_le
  have heq := (h.finishes_iff later c').2 hfinishes
  rw [List.append_assoc] at heq
  obtain rfl : c = c' := eq_of_prefix ⟨rest ++ later, heq.symm⟩ (List.prefix_refl _)
  rw [(List.append_eq_nil_iff.1 (List.self_eq_append_right.1 heq)).2] at hfinishes
  exact hfinishes

theorem next (h : b.Follows sofar) (hwindow : b.low ≤ a ∧ a ≤ b.high) {owed : Nat}
    (howed : b.owed = owed + 1) :
    Begun.Follows ⟨b.bitsWith a, owed, 0x80, 0xBF⟩ (sofar ++ [a]) where
  ne_nil := by simp
  low_le := by
    show (0x80 : UInt8) ≤ 0xBF
    decide
  finishes_iff := by
    intro later c
    rw [List.append_assoc, List.singleton_append, h.finishes_iff, Finishes, howed]
    exact and_iff_right hwindow

theorem last (h : b.Follows sofar) (hwindow : b.low ≤ a ∧ a ≤ b.high) (howed : b.owed = 0) :
    utf8EncodeChar (Char.ofNat (b.bitsWith a)) = sofar ++ [a] := by
  rw [h.finishes_iff, Finishes, howed]
  exact ⟨hwindow, rfl, rfl⟩

theorem not_begins (h : b.Follows sofar) (hwindow : ¬ (b.low ≤ a ∧ a ≤ b.high))
    (later : List UInt8) : ¬ Begins (sofar ++ a :: later) := by
  rintro ⟨c, rest, heq⟩
  rw [List.append_assoc, List.cons_append] at heq
  have hfinishes := (h.finishes_iff _ _).1 heq.symm
  exact hwindow hfinishes.1

end Follows

end Begun

/-! ## The first octet -/

/-- An octet in a window, and the number whose bits it continues. -/
theorem Begun.window_iff {b : Begun} (hlow : 0x80 ≤ b.low.toNat) (hhigh : b.high.toNat ≤ 0xBF)
    {a : UInt8} {n : Nat} :
    (b.low ≤ a ∧ a ≤ b.high) ∧ n = b.bitsWith a ↔
      a = UInt8.ofNat (0x80 + n % 64) ∧ n / 64 = b.bits ∧
        b.low.toNat ≤ 0x80 + n % 64 ∧ 0x80 + n % 64 ≤ b.high.toNat := by
  have hoctet : (UInt8.ofNat (0x80 + n % 64)).toNat = 0x80 + n % 64 := toNat_octet (by omega)
  rw [UInt8.le_iff_toNat_le, UInt8.le_iff_toNat_le, ← UInt8.toNat_inj, hoctet]
  unfold Begun.bitsWith
  omega

/-- After the first octet, each further one gives six bits; the window of the next one
may be narrower. -/
theorem Begun.finishes_iff_tails {b : Begun} (hlow : 0x80 ≤ b.low.toNat)
    (hhigh : b.high.toNat ≤ 0xBF) {later : List UInt8} {c : Char} :
    b.Finishes later c ↔ ∃ n, c = Char.ofNat n ∧ later = tails (b.owed + 1) n ∧
      n / 64 ^ (b.owed + 1) = b.bits ∧
      b.low.toNat ≤ 0x80 + n / 64 ^ b.owed % 64 ∧ 0x80 + n / 64 ^ b.owed % 64 ≤ b.high.toNat := by
  induction howed : b.owed generalizing b later with
  | zero =>
    cases later with
    | nil => simp [Finishes, tails]
    | cons a later =>
      simp only [Finishes, howed, tails, List.cons.injEq, Nat.pow_zero, Nat.div_one, Nat.pow_one,
        Nat.zero_add]
      constructor
      · rintro ⟨hwindow, hlater, hc⟩
        obtain ⟨ha, hrest⟩ := (window_iff hlow hhigh).1 ⟨hwindow, rfl⟩
        exact ⟨b.bitsWith a, hc, ⟨ha, hlater⟩, hrest⟩
      · rintro ⟨n, hc, ⟨ha, hlater⟩, hrest⟩
        obtain ⟨hwindow, hn⟩ := (window_iff hlow hhigh).2 ⟨ha, hrest⟩
        exact ⟨hwindow, hlater, hn ▸ hc⟩
  | succ owed ih =>
    cases later with
    | nil => simp [Finishes, tails]
    | cons a later =>
      have hnext := @ih ⟨b.bitsWith a, owed, 0x80, 0xBF⟩ (Nat.le_refl 0x80) (Nat.le_refl 0xBF)
        later rfl
      simp only [Finishes, howed, hnext, tails, List.cons.injEq]
      constructor
      · rintro ⟨hwindow, n, hc, hlater, hbits, _⟩
        obtain ⟨ha, hrest⟩ := (window_iff hlow hhigh).1 ⟨hwindow, hbits⟩
        rw [Nat.div_div_eq_div_mul, ← Nat.pow_succ] at hrest
        exact ⟨n, hc, ⟨ha, hlater⟩, hrest⟩
      · rintro ⟨n, hc, ⟨ha, hlater⟩, hrest⟩
        rw [Nat.pow_succ, ← Nat.div_div_eq_div_mul] at hrest
        obtain ⟨hwindow, hbits⟩ := (window_iff hlow hhigh).2 ⟨ha, hrest⟩
        have hsix := Nat.mod_lt (n / 64 ^ owed) (y := 64) (by decide)
        refine ⟨hwindow, n, hc, hlater, hbits, Nat.le_add_right 0x80 _, ?_⟩
        show 0x80 + n / 64 ^ owed % 64 ≤ 0xBF
        omega

/-- What the first octet of a longer character tells: how many octets are owed, the
bits, and the window that keeps out short characters written long, the surrogates and
what is no character. -/
theorem lead_opens {a : UInt8} {b : Begun} (h : lead a = .opens b) :
    (b.owed = 0 ∧ a.toNat = 0xC0 + b.bits ∧ 2 ≤ b.bits ∧ b.bits < 0x20 ∧
      b.low.toNat = 0x80 ∧ b.high.toNat = 0xBF) ∨
    (b.owed = 1 ∧ a.toNat = 0xE0 + b.bits ∧ b.bits < 0x10 ∧
      (b.low.toNat = 0xA0 ∧ b.bits = 0 ∨ b.low.toNat = 0x80 ∧ b.bits ≠ 0) ∧
      (b.high.toNat = 0x9F ∧ b.bits = 0xD ∨ b.high.toNat = 0xBF ∧ b.bits ≠ 0xD)) ∨
    (b.owed = 2 ∧ a.toNat = 0xF0 + b.bits ∧ b.bits ≤ 4 ∧
      (b.low.toNat = 0x90 ∧ b.bits = 0 ∨ b.low.toNat = 0x80 ∧ b.bits ≠ 0) ∧
      (b.high.toNat = 0x8F ∧ b.bits = 4 ∨ b.high.toNat = 0xBF ∧ b.bits ≠ 4)) := by
  simp only [lead] at h
  split_ifs at h <;> simp only [Lead.opens.injEq] at h <;> subst h <;> simp <;> omega

theorem lead_whole {a : UInt8} {c : Char} (h : lead a = .whole c) :
    a < 0x80 ∧ c = Char.ofNat a.toNat := by
  simp only [lead] at h
  split_ifs at h with hlt
  cases h
  exact ⟨UInt8.lt_iff_toNat_lt.2 hlt, rfl⟩

theorem lead_stray {a : UInt8} (h : lead a = .stray) :
    0x80 ≤ a.toNat ∧ a.toNat < 0xC2 ∨ 0xF4 < a.toNat := by
  simp only [lead] at h
  split_ifs at h
  omega

/-- The characters that start with an octet are in the window that it opens. -/
theorem tails_of_lead {a : UInt8} {b : Begun} (h : lead a = .opens b) {later : List UInt8}
    {c : Char} (hc : utf8EncodeChar c = a :: later) :
    later = tails (b.owed + 1) c.toNat ∧ c.toNat / 64 ^ (b.owed + 1) = b.bits ∧
      b.low.toNat ≤ 0x80 + c.toNat / 64 ^ b.owed % 64 ∧
      0x80 + c.toNat / 64 ^ b.owed % 64 ≤ b.high.toNat := by
  have hopens := lead_opens h
  have hvalid : c.toNat < 0xD800 ∨ 0xDFFF < c.toNat ∧ c.toNat < 0x110000 := c.valid
  have hfirst : ∀ n rest, n < 0x100 → utf8EncodeChar c = UInt8.ofNat n :: rest →
      a.toNat = n ∧ later = rest := by
    intro n rest hn he
    obtain ⟨rfl, rfl⟩ := List.cons.inj (hc.symm.trans he)
    exact ⟨toNat_octet hn, rfl⟩
  -- The first octet tells how many there are.
  rcases utf8EncodeChar_cases c with ⟨_, he⟩ | ⟨_, _, he⟩ | ⟨_, _, he⟩ | ⟨_, _, he⟩ <;>
    obtain ⟨ha, hlater⟩ := hfirst _ _ (by omega) he
  · omega
  · have howed : b.owed = 0 := by omega
    rw [howed]
    exact ⟨hlater, by omega⟩
  · have howed : b.owed = 1 := by omega
    rw [howed]
    exact ⟨hlater, by omega⟩
  · have howed : b.owed = 2 := by omega
    rw [howed]
    exact ⟨hlater, by omega⟩

/-- What is in the window that an octet opens is a character that starts with it. -/
theorem utf8EncodeChar_of_lead {a : UInt8} {b : Begun} (h : lead a = .opens b) {n : Nat}
    (hbits : n / 64 ^ (b.owed + 1) = b.bits)
    (hlow : b.low.toNat ≤ 0x80 + n / 64 ^ b.owed % 64)
    (hhigh : 0x80 + n / 64 ^ b.owed % 64 ≤ b.high.toNat) :
    utf8EncodeChar (Char.ofNat n) = a :: tails (b.owed + 1) n := by
  have hfirst : ∀ k, a.toNat = k → UInt8.ofNat k = a := by
    rintro k rfl
    exact UInt8.ofNat_toNat
  have hcases := utf8EncodeChar_cases (Char.ofNat n)
  rcases lead_opens h with ⟨howed, hopens⟩ | ⟨howed, hopens⟩ | ⟨howed, hopens⟩ <;>
    rw [howed] at hbits hlow hhigh ⊢
  · have hn : (Char.ofNat n).toNat = n := toNat_ofNat_of_isValidChar (.inl (by omega))
    rw [hn] at hcases
    rcases hcases with ⟨_, he⟩ | ⟨_, _, he⟩ | ⟨_, _, he⟩ | ⟨_, _, he⟩ <;> try omega
    rw [he, hfirst _ (by omega)]
  · have hvalid : n.isValidChar := by
      unfold Nat.isValidChar
      omega
    rw [toNat_ofNat_of_isValidChar hvalid] at hcases
    rcases hcases with ⟨_, he⟩ | ⟨_, _, he⟩ | ⟨_, _, he⟩ | ⟨_, _, he⟩ <;> try omega
    rw [he, hfirst _ (by omega)]
  · have hn : (Char.ofNat n).toNat = n :=
      toNat_ofNat_of_isValidChar (.inr ⟨by omega, by omega⟩)
    rw [hn] at hcases
    rcases hcases with ⟨_, he⟩ | ⟨_, _, he⟩ | ⟨_, _, he⟩ | ⟨_, _, he⟩ <;> try omega
    rw [he, hfirst _ (by omega)]

/-- The window after the first octet is right. -/
theorem follows_of_lead {a : UInt8} {b : Begun} (h : lead a = .opens b) : b.Follows [a] := by
  have hwindow : 0x80 ≤ b.low.toNat ∧ b.low.toNat ≤ b.high.toNat ∧ b.high.toNat ≤ 0xBF := by
    have hopens := lead_opens h
    omega
  refine ⟨by simp, UInt8.le_iff_toNat_le.2 hwindow.2.1, ?_⟩
  intro later c
  rw [List.singleton_append, Begun.finishes_iff_tails hwindow.1 hwindow.2.2]
  constructor
  · intro hc
    exact ⟨c.toNat, (Char.ofNat_toNat c).symm, tails_of_lead h hc⟩
  · rintro ⟨n, rfl, rfl, hbits, hlow, hhigh⟩
    exact utf8EncodeChar_of_lead h hbits hlow hhigh

theorem not_begins_of_stray {a : UInt8} (h : lead a = .stray) (later : List UInt8) :
    ¬ Begins (a :: later) := by
  rintro ⟨c, rest, hc⟩
  have hstray := lead_stray h
  have hfirst : ∀ n rest, n < 0x100 → utf8EncodeChar c = UInt8.ofNat n :: rest → a.toNat = n := by
    intro n rest hn he
    rw [(List.cons.inj (hc.trans he)).1, toNat_octet hn]
  rcases utf8EncodeChar_cases c with ⟨_, he⟩ | ⟨_, _, he⟩ | ⟨_, _, he⟩ | ⟨_, _, he⟩ <;>
    have ha := hfirst _ _ (by omega) he <;> omega

/-! ## Every octet in its place -/

/-- A part is maximal if nothing that follows it goes on with a character. -/
theorem MaximalPart.of_not_begins {part rest : List UInt8}
    (hpart : part.length = 1 ∨ part ≠ [] ∧ Begins part) (hwhole : ∀ c, ¬ utf8EncodeChar c <+: part)
    (hlater : ∀ later, later ≠ [] → later <+: rest → ¬ Begins (part ++ later)) :
    MaximalPart part rest where
  single_or_begins := hpart
  no_char := by
    rintro c ⟨tail, heq⟩
    rcases List.append_eq_append_iff.1 heq with ⟨middle, hc, _⟩ | ⟨later, hc, hrest⟩
    · exact hwhole c ⟨middle, hc.symm⟩
    · refine hlater later ?_ ⟨tail, hrest.symm⟩ ⟨c, hc ▸ List.prefix_refl _⟩
      rintro rfl
      exact hwhole c ⟨[], by rw [hc, List.append_nil, List.append_nil]⟩
  maximal := by
    rintro longer ⟨tail, heq⟩ hlength
    rcases List.append_eq_append_iff.1 heq with ⟨middle, hlonger, _⟩ | ⟨later, rfl, hrest⟩
    · rw [hlonger, List.length_append] at hlength
      omega
    · refine hlater later ?_ ⟨tail, hrest.symm⟩
      rintro rfl
      simp at hlength

theorem maximalPart_of_stray {a : UInt8} (h : lead a = .stray) (rest : List UInt8) :
    MaximalPart [a] rest := by
  refine .of_not_begins (.inl rfl) ?_ (fun later _ _ => not_begins_of_stray h later)
  intro c hc
  rcases List.prefix_cons_iff.1 hc with hnil | ⟨later, hcons, _⟩
  · exact utf8EncodeChar_ne_nil hnil
  · exact not_begins_of_stray h later ⟨c, hcons ▸ List.prefix_refl _⟩

theorem decodeFrom_outside {b : Begun} {a : UInt8} (h : ¬ (b.low ≤ a ∧ a ≤ b.high))
    (rest : List UInt8) :
    decodeFrom (some b) (a :: rest) = replacement :: decodeFrom none (a :: rest) := by
  simp only [decodeFrom, if_neg h]
  cases lead a <;> rfl

/-- The reader reads octets, also those that go on with what was begun. -/
theorem decodes_decodeFrom (octets : List UInt8) :
    Decodes octets (decodeFrom none octets) ∧
      ∀ (b : Begun) (sofar : List UInt8), b.Follows sofar →
        Decodes (sofar ++ octets) (decodeFrom (some b) octets) := by
  induction octets with
  | nil =>
    refine ⟨.nil, fun b sofar h => .part (.of_not_begins (.inr ⟨h.ne_nil, h.begins⟩) h.no_char ?_)
      .nil⟩
    intro later hne hnil
    exact absurd (List.prefix_nil.1 hnil) hne
  | cons a rest ih =>
    obtain ⟨hrest, hgoing⟩ := ih
    have hnone : Decodes (a :: rest) (decodeFrom none (a :: rest)) := by
      rw [decodeFrom]
      cases hlead : lead a with
      | whole c =>
        obtain ⟨ha, rfl⟩ := lead_whole hlead
        have hchar := Decodes.char (Char.ofNat a.toNat) hrest
        rw [utf8EncodeChar_ascii ha] at hchar
        exact hchar
      | opens b => exact hgoing b [a] (follows_of_lead hlead)
      | stray => exact .part (maximalPart_of_stray hlead rest) hrest
    refine ⟨hnone, fun b sofar h => ?_⟩
    by_cases hwindow : b.low ≤ a ∧ a ≤ b.high
    · rw [decodeFrom, if_pos hwindow]
      cases howed : b.owed with
      | zero =>
        have hchar := Decodes.char (Char.ofNat (b.bitsWith a)) hrest
        rw [h.last hwindow howed, List.append_assoc] at hchar
        exact hchar
      | succ owed =>
        have hnext := hgoing _ _ (h.next hwindow howed)
        rw [List.append_assoc] at hnext
        exact hnext
    · rw [decodeFrom_outside hwindow]
      refine .part (.of_not_begins (.inr ⟨h.ne_nil, h.begins⟩) h.no_char ?_) hnone
      rintro later hne ⟨tail, heq⟩
      cases later with
      | nil => exact absurd rfl hne
      | cons a' later =>
        obtain rfl := (List.cons.inj heq).1
        exact h.not_begins hwindow later

theorem decodes_decodeLossy (octets : List UInt8) :
    Decodes octets (decodeLossy octets).toList := by
  rw [decodeLossy, String.toList_ofList]
  exact (decodes_decodeFrom octets).1

/-- **How octets are read.** -/
theorem decodes_iff {octets : List UInt8} {text : List Char} :
    Decodes octets text ↔ text = (decodeLossy octets).toList := by
  constructor
  · intro h
    exact h.unique (decodes_decodeLossy octets)
  · rintro rfl
    exact decodes_decodeLossy octets

/-- A character that a line feed cuts off is one part; what begins no character is taken
octet by octet. -/
example : decodeFrom none [0xE2, 0x82, 0x0A, 0xC0, 0x80]
    = [replacement, '\n', replacement, replacement] := by
  decide

/-! ## Octets that are characters by themselves -/

section Ascii

variable {a : UInt8} {octets later : List UInt8} {text more : List Char}

theorem mem_utf8EncodeChar_iff (ha : a < 0x80) {c : Char} :
    a ∈ utf8EncodeChar c ↔ c = Char.ofNat a.toNat := by
  constructor
  · exact eq_of_mem_ascii ha
  · rintro rfl
    rw [utf8EncodeChar_ascii ha]
    exact List.mem_singleton_self a

/-- What holds an octet below `80` begins no character, unless it is that octet. -/
theorem eq_singleton_of_begins (ha : a < 0x80) (hmem : a ∈ octets) (h : Begins octets) :
    octets = [a] := by
  obtain ⟨c, hc⟩ := h
  rw [eq_of_mem_ascii ha (hc.subset hmem), utf8EncodeChar_ascii ha] at hc
  exact (hc.eq_of_length_le (List.length_pos_of_mem hmem))

theorem MaximalPart.notMem_ascii (ha : a < 0x80) {part rest : List UInt8}
    (h : MaximalPart part rest) : a ∉ part := by
  intro hmem
  have hpart : part = [a] := by
    rcases h.single_or_begins with hone | ⟨_, hbegins⟩
    · obtain ⟨x, rfl⟩ := List.length_eq_one_iff.1 hone
      rw [List.mem_singleton.1 hmem]
    · exact eq_singleton_of_begins ha hmem hbegins
  refine h.no_char (Char.ofNat a.toNat) ?_
  rw [utf8EncodeChar_ascii ha, hpart]
  exact List.prefix_append _ _

theorem MaximalPart.append_ascii (ha : a < 0x80) {part rest : List UInt8}
    (h : MaximalPart part rest) (later : List UInt8) : MaximalPart part (rest ++ a :: later) := by
  have hsplit : ∀ longer, Begins longer → longer <+: part ++ (rest ++ a :: later) →
      longer <+: part ++ rest := by
    rintro longer hbegins ⟨tail, heq⟩
    rw [← List.append_assoc] at heq
    rcases List.append_eq_append_iff.1 heq with ⟨middle, hmiddle, _⟩ | ⟨beyond, hbeyond, hlater⟩
    · exact ⟨middle, hmiddle.symm⟩
    · cases beyond with
      | nil => exact ⟨[], by rw [hbeyond, List.append_nil, List.append_nil]⟩
      | cons a' beyond =>
        obtain rfl := (List.cons.inj hlater).1
        have hone := eq_singleton_of_begins ha (by rw [hbeyond]; simp) hbegins
        have hlength := congrArg List.length (hbeyond.symm.trans hone)
        have hpos := List.length_pos_iff.2 h.ne_nil
        simp only [List.length_append, List.length_cons, List.length_nil] at hlength
        omega
  refine ⟨h.single_or_begins, fun c hc => h.no_char c (hsplit _ ⟨c, List.prefix_refl _⟩ hc), ?_⟩
  intro longer hlonger hlength hbegins
  exact h.maximal longer (hsplit longer hbegins hlonger) hlength hbegins

namespace Decodes

theorem append_ascii (ha : a < 0x80) (h : Decodes octets text) (hlater : Decodes later more) :
    Decodes (octets ++ a :: later) (text ++ Char.ofNat a.toNat :: more) := by
  induction h with
  | nil =>
    have hchar := Decodes.char (Char.ofNat a.toNat) hlater
    rw [utf8EncodeChar_ascii ha] at hchar
    exact hchar
  | char c _ ih =>
    rw [List.append_assoc]
    exact .char c ih
  | part hpart _ ih =>
    rw [List.append_assoc]
    exact .part (hpart.append_ascii ha later) ih

theorem replacement_ne_ascii (ha : a < 0x80) : replacement ≠ Char.ofNat a.toNat := by
  intro heq
  have hlt := UInt8.lt_iff_toNat_lt.1 ha
  rw [← toNat_ascii ha, ← heq] at hlt
  exact absurd hlt (by decide)

theorem mem_ascii_iff (ha : a < 0x80) (h : Decodes octets text) :
    Char.ofNat a.toNat ∈ text ↔ a ∈ octets := by
  induction h with
  | nil => simp
  | char c _ ih =>
    rw [List.mem_cons, List.mem_append, ih, mem_utf8EncodeChar_iff ha, eq_comm]
  | part hpart _ ih =>
    rw [List.mem_cons, List.mem_append, ih]
    have hnot := hpart.notMem_ascii ha
    have hne := (replacement_ne_ascii ha).symm
    simp only [hnot, hne]

theorem getLast_ascii (ha : a < 0x80) (h : Decodes octets text)
    (hlast : text.getLast? = some (Char.ofNat a.toNat)) : octets.getLast? = some a := by
  induction h with
  | nil => cases hlast
  | @char c rest text hrest ih =>
    cases hrest with
    | nil =>
      obtain rfl := Option.some.inj hlast
      rw [utf8EncodeChar_ascii ha]
      rfl
    | char | part =>
      rw [List.getLast?_cons_cons] at hlast
      rw [List.getLast?_append, ih hlast]
      rfl
  | @part part rest text _ hrest ih =>
    cases hrest with
    | nil => exact absurd (Option.some.inj hlast) (replacement_ne_ascii ha)
    | char | part =>
      rw [List.getLast?_cons_cons] at hlast
      rw [List.getLast?_append, ih hlast]
      rfl

end Decodes

theorem toList_decodeLossy_append (ha : a < 0x80) (octets later : List UInt8) :
    (decodeLossy (octets ++ a :: later)).toList
      = (decodeLossy octets).toList ++ Char.ofNat a.toNat :: (decodeLossy later).toList :=
  (decodes_decodeLossy _).unique
    ((decodes_decodeLossy octets).append_ascii ha (decodes_decodeLossy later))

end Ascii

/-! ## Texts that were written -/

theorem toList_loop (octets : ByteArray) (i : Nat) (seen : List UInt8) :
    ByteArray.toList.loop octets i seen = seen.reverse ++ octets.data.toList.drop i := by
  induction i, seen using ByteArray.toList.loop.induct octets with
  | case1 i seen hlt ih =>
    have hi : i < octets.data.toList.length := hlt
    have hget : octets.get! i = octets.data.toList[i] := by
      rw [ByteArray.get!, Array.getElem_toList]
      exact getElem!_pos octets.data i hlt
    rw [ByteArray.toList.loop, if_pos hlt, ih, List.drop_eq_getElem_cons hi, hget,
      List.reverse_cons, List.append_assoc, List.singleton_append]
  | case2 i seen hge =>
    have hle : octets.data.toList.length ≤ i := Nat.le_of_not_lt hge
    rw [ByteArray.toList.loop, if_neg hge, List.drop_eq_nil_of_le hle, List.append_nil]

theorem decode?_encode (s : String) : decode? (encode s) = some s := by
  have hlist : encode s = s.toByteArray.data.toList := by
    rw [encode, String.toUTF8, ByteArray.toList, toList_loop]
    rfl
  have hoctets : (⟨(encode s).toArray⟩ : ByteArray) = s.toByteArray := by
    rw [hlist, Array.toArray_toList]
  rw [decode?, hoctets, String.fromUTF8?, dif_pos s.isValidUTF8]
  rfl

end LogProblems.Text.Utf8
