import LogProblems.Files.Tree
import LogProblems.Proofs.Text.Utf8

/-!
# What a written file changes

A file that was written is read as it was written, and every other file is read as
before: the way to it leads through directories, and these stay.

* `found?_put_of_ne`: what stands at the other places;
* `walk_of_directories`: the ways that stay;
* `read_of_write` and `read_of_write_of_ne`: the files after one was written;
* `IsName.locate_eq`: the paths that lead nowhere but to the name they are.
-/

set_option autoImplicit false

namespace LogProblems.FileTree

variable {t u : FileTree}

/-! ## Places -/

theorem lookup_filter_bne {place other : List String} (h : other ≠ place)
    (entries : List (List String × Entry)) :
    (entries.filter (·.1 != place)).lookup other = entries.lookup other := by
  induction entries with
  | nil => rfl
  | cons e rest ih =>
    obtain ⟨p, entry⟩ := e
    by_cases hp : p = place
    · have hne : (other == p) = false := by
        rw [beq_eq_false_iff_ne, hp]
        exact h
      rw [List.filter_cons_of_neg (by simp [hp]), ih, List.lookup_cons, hne]
    · rw [List.filter_cons_of_pos (by simpa using hp), List.lookup_cons, List.lookup_cons, ih]

theorem found?_put_of_ne {place other : List String} (h : other ≠ place) (e : Entry) :
    (t.put place e).found? other = t.found? other := by
  have hne : (other == place) = false := beq_eq_false_iff_ne.2 h
  rw [found?, found?, put, List.lookup_cons, hne, lookup_filter_bne h]

/-- A way that leads through directories stays where these stay. -/
theorem walk_of_directories
    (h : ∀ place, t.found? place = some .directory → u.found? place = some .directory)
    {here place : List String} {names : List String} (hwalk : t.walk here names = .ok place) :
    u.walk here names = .ok place := by
  induction names generalizing here with
  | nil => exact hwalk
  | cons name rest ih =>
    rw [walk] at hwalk ⊢
    cases hfound : t.found? here with
    | none =>
      rw [hfound] at hwalk
      cases hwalk
    | some e =>
      rw [hfound] at hwalk
      cases e with
      | file content => cases hwalk
      | directory =>
        rw [h here hfound]
        simp only at hwalk ⊢
        split at hwalk
        · cases hwalk
        · next hname =>
          rw [if_neg hname]
          split at hwalk
          · next hdot => rw [if_pos hdot, ih hwalk]
          · next hdot =>
            rw [if_neg hdot]
            split at hwalk
            · next hup => rw [if_pos hup, ih hwalk]
            · next hup => rw [if_neg hup, ih hwalk]

theorem locate_of_directories
    (h : ∀ place, t.found? place = some .directory → u.found? place = some .directory)
    {path : String} {place : List String} (hlocate : t.locate path = .ok place) :
    u.locate path = .ok place := by
  rw [locate] at hlocate ⊢
  split at hlocate
  · cases hlocate
  · next hnul =>
    rw [if_neg hnul]
    split at hlocate
    · cases hlocate
    · next hempty =>
      rw [if_neg hempty]
      exact walk_of_directories h hlocate

/-! ## Files -/

variable {path other : String} {content octets : List UInt8}

/-- What a read file is: a path to it, and no directory. -/
theorem read_eq_ok_iff :
    t.read path = .ok octets ↔
      ∃ place, t.locate path = .ok place ∧ t.found? place = some (.file octets)
        ∧ path.endsWith "/" = false := by
  rw [read]
  constructor
  · intro h
    split at h
    · cases h
    · next place hlocate =>
      refine ⟨place, hlocate, ?_⟩
      split at h
      · cases h
      · cases h
      · next c hfound =>
        split at h
        · cases h
        · next hslash =>
          cases h
          exact ⟨hfound, by simpa using hslash⟩
  · rintro ⟨place, hlocate, hfound, hslash⟩
    simp only [hlocate, hfound, hslash, Bool.false_eq_true, if_false]

/-- A file is written where a path leads, unless a directory stands there. -/
theorem write_eq_ok_iff :
    t.write path content = .ok u ↔
      ∃ place, t.locate path = .ok place ∧ t.found? place ≠ some .directory
        ∧ path.endsWith "/" = false ∧ u = t.put place (.file content) := by
  rw [write]
  constructor
  · intro h
    split at h
    · cases h
    · next place hlocate =>
      refine ⟨place, hlocate, ?_⟩
      split at h
      · cases h
      · next hfound =>
        split at h
        · cases h
        · next hslash =>
          cases h
          exact ⟨by simp [hfound], by simpa using hslash, rfl⟩
      · next hfound =>
        split at h
        · cases h
        · next hslash =>
          cases h
          exact ⟨by simp [hfound], by simpa using hslash, rfl⟩
  · rintro ⟨place, hlocate, hfound, hslash, rfl⟩
    simp only [hlocate, hslash, Bool.false_eq_true, if_false]
    cases hentry : t.found? place with
    | none => rfl
    | some e =>
      cases e with
      | directory => exact absurd hentry hfound
      | file octets => rfl

theorem isOutside_of_found?_ne {place : List String} (h : t.found? place ≠ some .directory) :
    isOutside place = false := by
  cases hout : isOutside place with
  | false => rfl
  | true => exact absurd (by rw [found?, hout]; rfl) h

theorem locate_of_write (h : t.write path content = .ok u) {place : List String}
    (hlocate : t.locate other = .ok place) : u.locate other = .ok place := by
  obtain ⟨file, -, hfile, -, rfl⟩ := write_eq_ok_iff.1 h
  refine locate_of_directories (fun q hq => ?_) hlocate
  rwa [found?_put_of_ne]
  rintro rfl
  exact hfile hq

theorem read_of_write (h : t.write path content = .ok u) : u.read path = .ok content := by
  obtain ⟨place, hlocate, hfound, hslash, hput⟩ := write_eq_ok_iff.1 h
  refine read_eq_ok_iff.2 ⟨place, locate_of_write h hlocate, ?_, hslash⟩
  rw [hput, found?_put (isOutside_of_found?_ne hfound)]

/-- Other files are read as before one was written. -/
theorem read_of_write_of_ne (h : t.write path content = .ok u)
    (hne : t.locate other ≠ t.locate path) (hread : t.read other = .ok octets) :
    u.read other = .ok octets := by
  obtain ⟨place, hlocate, hfound, hslash⟩ := read_eq_ok_iff.1 hread
  obtain ⟨file, hfile, -, -, hput⟩ := write_eq_ok_iff.1 h
  refine read_eq_ok_iff.2 ⟨place, locate_of_write h hlocate, ?_, hslash⟩
  rw [hput, found?_put_of_ne ?_, hfound]
  rintro rfl
  exact hne (hlocate.trans hfile.symm)

theorem locate_ne_of_write (h : t.write path content = .ok u)
    (hne : t.locate other ≠ t.locate path) (hread : t.read other = .ok octets) :
    u.locate other ≠ u.locate path := by
  obtain ⟨place, hlocate, -⟩ := read_eq_ok_iff.1 hread
  obtain ⟨file, hfile, -⟩ := write_eq_ok_iff.1 h
  rw [locate_of_write h hlocate, locate_of_write h hfile, ← hlocate, ← hfile]
  exact hne

theorem exists_write_of_read (h : t.read path = .ok octets) (content : List UInt8) :
    ∃ u, t.write path content = .ok u := by
  obtain ⟨place, hlocate, hfound, hslash⟩ := read_eq_ok_iff.1 h
  exact ⟨_, write_eq_ok_iff.2 ⟨place, hlocate, by simp [hfound], hslash, rfl⟩⟩

/-! ## Names -/

/-- A path that is one name, of what stands at the top of the tree. -/
structure IsName (name : String) : Prop where
  parts_eq : parts name = [name]
  no_nul : name.toList.contains (Char.ofNat 0) = false
  no_root : name.startsWith "/" = false
  no_slash : name.endsWith "/" = false
  short : name.utf8ByteSize ≤ nameLimit
  inside : isOutside [name] = false
  ne_here : name ≠ "."

namespace IsName

variable {name : String}

theorem isEmpty_eq_false (h : IsName name) : name.isEmpty = false := by
  have hmem : name ∈ parts name := h.parts_eq ▸ List.mem_singleton_self name
  simpa using (List.mem_filter.1 hmem).2

theorem ne_above (h : IsName name) : name ≠ ".." := by
  rintro rfl
  exact absurd h.inside (by decide)

theorem locate_eq (h : IsName name) (t : FileTree) : t.locate name = .ok [name] := by
  simp only [locate, h.no_nul, h.isEmpty_eq_false, h.no_root, h.parts_eq, Bool.false_eq_true,
    if_false, walk]
  rw [found?, if_pos (show isOutside [] = true from rfl)]
  simp only [if_neg (Nat.not_lt.2 h.short), if_neg h.ne_here, if_neg h.ne_above, List.nil_append]

theorem found?_eq (h : IsName name) (t : FileTree) :
    t.found? [name] = t.entries.lookup [name] := by
  rw [found?, h.inside, if_neg Bool.false_ne_true]

theorem read_eq_ok (h : IsName name) (hfile : t.entries.lookup [name] = some (.file octets)) :
    t.read name = .ok octets :=
  read_eq_ok_iff.2 ⟨[name], h.locate_eq t, (h.found?_eq t).trans hfile, h.no_slash⟩

theorem read_eq_notFound (h : IsName name) (hnone : t.entries.lookup [name] = none) :
    t.read name = .error .notFound := by
  rw [read, h.locate_eq t]
  simp only [h.found?_eq t, hnone]

theorem exists_write (h : IsName name) (hentry : t.entries.lookup [name] ≠ some .directory)
    (content : List UInt8) : ∃ u, t.write name content = .ok u :=
  ⟨_, write_eq_ok_iff.2 ⟨[name], h.locate_eq t, by rwa [h.found?_eq t], h.no_slash, rfl⟩⟩

end IsName

/-- A letter has no slash and no point. -/
theorem splitOn_letter {sep name : String} (hsep : sep ∈ ["/", "."])
    (h : name ∈ ["a", "h", "l", "m", "s"]) : name.splitOn sep = [name] := by
  simp only [List.mem_cons, List.not_mem_nil, or_false] at hsep h
  -- the search looks at the letter and at the end
  rcases hsep with rfl | rfl <;> rcases h with rfl | rfl | rfl | rfl | rfl
  all_goals
    rw [String.splitOn, if_neg (by decide), String.splitOnAux, String.splitOnAux]
    decide +kernel

/-- The letters that name the files of small trees. -/
theorem isName_letter {name : String} (h : name ∈ ["a", "h", "l", "m", "s"]) : IsName name := by
  have hsplit : name.splitOn "/" = [name] := splitOn_letter (by simp) h
  simp only [List.mem_cons, List.not_mem_nil, or_false] at h
  rcases h with rfl | rfl | rfl | rfl | rfl
  all_goals
    constructor
    case parts_eq =>
      rw [parts, hsplit]
      decide +kernel
    all_goals decide +kernel

/-! ## Texts -/

theorem readText_congr (h : u.read path = t.read path) : u.readText path = t.readText path := by
  rw [readText, readText, h]

theorem exists_read_of_readText {text : String} (h : t.readText path = .ok text) :
    ∃ octets, t.read path = .ok octets := by
  rw [readText] at h
  split at h
  · cases h
  · next octets hread => exact ⟨octets, hread⟩

theorem readText_of_read {text : String} (h : t.read path = .ok (Text.Utf8.encode text)) :
    t.readText path = .ok text := by
  have hdecode := Text.Utf8.decode?_encode text
  rw [Text.Utf8.decode?] at hdecode
  rw [readText, h]
  simp only [hdecode]

end LogProblems.FileTree
