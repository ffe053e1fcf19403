import Mathlib.Data.List.Induction
import Mathlib.Data.List.Nodup
import Mathlib.Data.Finset.Card
import LogProblems.Diagnostic.Listing

/-!
# Listings group emissions by path

A listing files one record at a time and looks the path up in an index.  Read as a
whole, it holds every path once, in the order of the first records, with all records
of that path in the order in which they came.

* `push_groups` and `file_groups`: filing one record more, and a sequence of them;
* `ofEmissions_files`: the listing of a sequence of emissions;
* `emissions_of_files` and `total_of_files`: nothing is lost and nothing is added;
* `Groups.paths`, `Groups.get?`, `Groups.mem_files_iff`, `Groups.size`: what is asked of a
  listing;
* `listing_groups_stably`: all of it, for the listing of a sequence of emissions.
-/

set_option autoImplicit false

namespace LogProblems

/-- The records that these emissions file under `path`. -/
def recordsUnder (es : List Emission) (path : String) : FileRecords :=
  { path, records := ((es.filter fun e => e.path == path).map (·.record)).toArray }

/-- The records of some emissions by path, paths in the order of their first record. -/
def grouped (es : List Emission) : List FileRecords :=
  (es.map (·.path)).eraseDups.map (recordsUnder es)

namespace Listing

/-- The listing holds the records of these emissions, and its index tells the place of
each path. -/
structure Groups (l : Listing) (es : List Emission) : Prop where
  files : l.files.toList = grouped es
  index : ∀ (path : String) (i : Nat),
    l.index[path]? = some i ↔ (es.map (·.path)).eraseDups[i]? = some path

/-- All records with their paths, path by path. -/
def emissions (l : Listing) : List Emission :=
  l.files.toList.flatMap fun f => f.records.toList.map fun record => ⟨f.path, record⟩

end Listing

/-! ## One record more -/

section
variable {α : Type} [BEq α] [LawfulBEq α]

theorem eraseDups_concat_of_mem {keys : List α} {k : α} (h : k ∈ keys) :
    (keys ++ [k]).eraseDups = keys.eraseDups := by
  simp [List.eraseDups_append, List.removeAll, h]

theorem eraseDups_concat_of_not_mem {keys : List α} {k : α} (h : k ∉ keys) :
    (keys ++ [k]).eraseDups = keys.eraseDups ++ [k] := by
  simp [List.eraseDups_append, List.removeAll, h, List.eraseDups_cons]

theorem nodup_eraseDups (keys : List α) : keys.eraseDups.Nodup := by
  induction keys using List.reverseRecOn with
  | nil => exact List.nodup_nil
  | append_singleton keys k ih =>
    by_cases h : k ∈ keys
    · rwa [eraseDups_concat_of_mem h]
    · rw [eraseDups_concat_of_not_mem h, ← List.concat_eq_append, List.nodup_concat]
      exact ⟨by rwa [List.mem_eraseDups], ih⟩

/-- Keys without their repetitions stand in the order in which each came first. -/
theorem pairwise_idxOf_eraseDups (keys : List α) :
    keys.eraseDups.Pairwise fun a b => keys.idxOf a < keys.idxOf b := by
  induction keys using List.reverseRecOn with
  | nil => exact List.Pairwise.nil
  | append_singleton keys k ih =>
    have hold : ∀ a ∈ keys.eraseDups, (keys ++ [k]).idxOf a = keys.idxOf a := fun a ha =>
      List.idxOf_append_of_mem (List.mem_eraseDups.1 ha)
    have hkeys : keys.eraseDups.Pairwise fun a b =>
        (keys ++ [k]).idxOf a < (keys ++ [k]).idxOf b := by
      refine ih.imp_of_mem fun {a b} ha hb hlt => ?_
      rwa [hold a ha, hold b hb]
    by_cases h : k ∈ keys
    · rwa [eraseDups_concat_of_mem h]
    · rw [eraseDups_concat_of_not_mem h]
      refine List.pairwise_append.2 ⟨hkeys, List.pairwise_singleton _ _, fun a ha b hb => ?_⟩
      rw [List.mem_singleton.1 hb, hold a ha, List.idxOf_append_of_notMem h]
      exact Nat.lt_of_lt_of_le (List.idxOf_lt_length_of_mem (List.mem_eraseDups.1 ha))
        (Nat.le_add_right _ _)

end

theorem getElem?_concat_eq_some {α : Type} {keys : List α} {k key : α} {i : Nat} :
    (keys ++ [k])[i]? = some key ↔ keys[i]? = some key ∨ (i = keys.length ∧ k = key) := by
  rcases Nat.lt_trichotomy i keys.length with hlt | rfl | hgt
  · simp [List.getElem?_append_left hlt, Nat.ne_of_lt hlt]
  · simp
  · have hnone : (keys ++ [k])[i]? = none := by
      rw [List.getElem?_eq_none_iff, List.length_append, List.length_singleton]
      omega
    simp [hnone, Nat.ne_of_gt hgt, List.getElem?_eq_none (Nat.le_of_lt hgt)]

variable {es : List Emission} {e : Emission}

theorem recordsUnder_concat_of_ne {path : String} (h : e.path ≠ path) :
    recordsUnder (es ++ [e]) path = recordsUnder es path := by
  simp [recordsUnder, h]

theorem recordsUnder_concat_self :
    recordsUnder (es ++ [e]) e.path
      = { recordsUnder es e.path with
          records := (recordsUnder es e.path).records.push e.record } := by
  simp [recordsUnder]

theorem recordsUnder_of_not_mem {path : String} (h : path ∉ es.map (·.path)) :
    recordsUnder es path = ⟨path, #[]⟩ := by
  have hnone : es.filter (fun e => e.path == path) = [] := by
    rw [List.filter_eq_nil_iff]
    intro e he
    rw [beq_iff_eq]
    rintro rfl
    exact h (List.mem_map_of_mem he)
  simp [recordsUnder, hnone]

/-- A new path stands at the end. -/
theorem grouped_concat_of_not_mem (h : e.path ∉ es.map (·.path)) :
    grouped (es ++ [e]) = grouped es ++ [⟨e.path, #[e.record]⟩] := by
  have hold : ∀ path ∈ (es.map (·.path)).eraseDups,
      recordsUnder (es ++ [e]) path = recordsUnder es path := by
    intro path hpath
    refine recordsUnder_concat_of_ne ?_
    rintro rfl
    exact h (List.mem_eraseDups.1 hpath)
  rw [grouped, List.map_append, List.map_singleton, eraseDups_concat_of_not_mem h,
    List.map_append, List.map_congr_left hold, List.map_singleton, recordsUnder_concat_self,
    recordsUnder_of_not_mem h]
  rfl

/-- A known path keeps its place. -/
theorem grouped_concat_of_getElem? {i : Nat}
    (h : (es.map (·.path)).eraseDups[i]? = some e.path) :
    grouped (es ++ [e])
      = (grouped es).modify i fun f => { f with records := f.records.push e.record } := by
  have hmem : e.path ∈ es.map (·.path) := List.mem_eraseDups.1 (List.mem_of_getElem? h)
  rw [grouped, List.map_append, List.map_singleton, eraseDups_concat_of_mem hmem]
  refine List.ext_getElem? fun j => ?_
  rw [List.getElem?_modify, grouped, List.getElem?_map, List.getElem?_map]
  cases hpath : (es.map (·.path)).eraseDups[j]? with
  | none => rfl
  | some path =>
    by_cases hij : i = j
    · subst hij
      obtain rfl : e.path = path := Option.some.inj (h.symm.trans hpath)
      simp [recordsUnder_concat_self]
    · have hne : e.path ≠ path := by
        rintro rfl
        obtain ⟨hi, hgeti⟩ := List.getElem?_eq_some_iff.1 h
        obtain ⟨hj, hgetj⟩ := List.getElem?_eq_some_iff.1 hpath
        exact hij ((nodup_eraseDups _).getElem_inj_iff.1 (hgeti.trans hgetj.symm))
      simp [recordsUnder_concat_of_ne hne, hij]

namespace Listing

variable {l : Listing}

theorem push_groups (h : l.Groups es) : (l.push e.path e.record).Groups (es ++ [e]) := by
  have hsize : l.files.size = (es.map (·.path)).eraseDups.length := by
    rw [← Array.length_toList, h.files, grouped, List.length_map]
  cases hindex : l.index[e.path]? with
  | some i =>
    have hplace := (h.index e.path i).1 hindex
    have hmem : e.path ∈ es.map (·.path) := List.mem_eraseDups.1 (List.mem_of_getElem? hplace)
    constructor
    · rw [push_known hindex, Array.toList_modify, h.files, grouped_concat_of_getElem? hplace]
    · intro path j
      rw [List.map_append, List.map_singleton, eraseDups_concat_of_mem hmem, ← h.index path j]
      simp [push, hindex]
  | none =>
    have hnew : e.path ∉ es.map (·.path) := by
      intro hmem
      obtain ⟨i, hi⟩ := List.getElem?_of_mem (List.mem_eraseDups.2 hmem)
      rw [(h.index e.path i).2 hi] at hindex
      cases hindex
    constructor
    · rw [push_new hindex, Array.toList_push, h.files, grouped_concat_of_not_mem hnew]
    · intro path j
      rw [List.map_append, List.map_singleton, eraseDups_concat_of_not_mem hnew]
      simp only [push, hindex, Std.HashMap.getElem?_insert, hsize, beq_iff_eq,
        getElem?_concat_eq_some, ← h.index path j]
      by_cases hpath : e.path = path
      · subst hpath
        simp [hindex, eq_comm]
      · simp [hpath]

theorem file_groups (later : List Emission) (h : l.Groups es) :
    (l.file later).Groups (es ++ later) := by
  induction later generalizing l es with
  | nil => simpa [file] using h
  | cons e later ih => simpa [file] using ih (push_groups (e := e) h)

theorem empty_groups : empty.Groups [] :=
  ⟨rfl, by simp [empty]⟩

/-- A listing holds exactly the records of its emissions, path by path. -/
theorem ofEmissions_groups (es : List Emission) : (ofEmissions es).Groups es :=
  file_groups es empty_groups

theorem ofEmissions_files (es : List Emission) : (ofEmissions es).files.toList = grouped es :=
  (ofEmissions_groups es).files

/-- The paths of a listing are those of its emissions. -/
theorem Groups.paths (h : l.Groups es) : l.paths = (es.map (·.path)).eraseDups := by
  rw [Listing.paths, h.files, grouped, List.map_map]
  exact List.map_id _

theorem mem_paths_ofEmissions {path : String} :
    path ∈ (ofEmissions es).paths ↔ ∃ e ∈ es, e.path = path := by
  rw [(ofEmissions_groups es).paths, List.mem_eraseDups, List.mem_map]

theorem Groups.get? (h : l.Groups es) (path : String) :
    l.get? path
      = if path ∈ es.map (·.path) then some (recordsUnder es path).records else none := by
  by_cases hmem : path ∈ es.map (·.path)
  · obtain ⟨i, hi⟩ := List.getElem?_of_mem (List.mem_eraseDups.2 hmem)
    have hfile : l.files[i]? = some (recordsUnder es path) := by
      rw [← Array.getElem?_toList, h.files, grouped, List.getElem?_map, hi, Option.map_some]
    rw [Listing.get?, (h.index path i).2 hi, Option.bind_some, hfile, if_pos hmem]
    rfl
  · have hnone : l.index[path]? = none := by
      cases hindex : l.index[path]? with
      | none => rfl
      | some i =>
        have hi := (h.index path i).1 hindex
        exact absurd (List.mem_eraseDups.1 (List.mem_of_getElem? hi)) hmem
    rw [Listing.get?, hnone, if_neg hmem]
    rfl

/-! ## Nothing is lost -/

/-- Sorting emissions by their paths only moves them around. -/
theorem flatMap_filter_perm {paths : List String} (hpaths : paths.Nodup) :
    ∀ {es : List Emission}, (∀ e ∈ es, e.path ∈ paths) →
      (paths.flatMap fun path => es.filter fun e => e.path == path).Perm es := by
  induction paths with
  | nil =>
    intro es h
    cases es with
    | nil => exact .nil
    | cons e es => exact absurd (h e List.mem_cons_self) List.not_mem_nil
  | cons path paths ih =>
    intro es h
    obtain ⟨hnot, hnodup⟩ := List.nodup_cons.1 hpaths
    have hrest : ∀ e ∈ es.filter (fun e => !(e.path == path)), e.path ∈ paths := by
      intro e he
      obtain ⟨hes, hne⟩ := List.mem_filter.1 he
      exact (List.mem_cons.1 (h e hes)).resolve_left (by simpa using hne)
    have hothers : (paths.flatMap fun other => es.filter fun e => e.path == other)
        = paths.flatMap fun other =>
            (es.filter fun e => !(e.path == path)).filter fun e => e.path == other := by
      refine List.flatMap_congr fun other hother => ?_
      rw [List.filter_filter]
      refine List.filter_congr fun e _ => ?_
      cases heq : e.path == other with
      | false => rfl
      | true =>
        have hne : e.path ≠ path := by
          rw [beq_iff_eq.1 heq]
          rintro rfl
          exact hnot hother
        simp [hne]
    rw [List.flatMap_cons, hothers]
    exact ((ih hnodup hrest).append_left _).trans (List.filter_append_perm _ es)

/-- The records of a listing, with their paths, are its emissions, moved around. -/
theorem emissions_of_files (h : l.files.toList = grouped es) : l.emissions.Perm es := by
  have hfile : ∀ path, ((recordsUnder es path).records.toList.map fun record =>
      (⟨path, record⟩ : Emission)) = es.filter fun e => e.path == path := by
    intro path
    rw [recordsUnder, List.map_map]
    refine (List.map_congr_left fun e he => ?_).trans (List.map_id _)
    have hpath : e.path = path := by simpa using (List.mem_filter.1 he).2
    subst hpath
    rfl
  have hemissions : l.emissions
      = (es.map (·.path)).eraseDups.flatMap fun path => es.filter fun e => e.path == path := by
    rw [emissions, h, grouped, List.flatMap_map]
    exact List.flatMap_congr fun path _ => hfile path
  rw [hemissions]
  refine flatMap_filter_perm (nodup_eraseDups _) fun e he => ?_
  exact List.mem_eraseDups.2 (List.mem_map_of_mem he)

theorem foldl_size (files : List FileRecords) (n : Nat) :
    files.foldl (fun n f => n + f.records.size) n
      = n + (files.flatMap fun f =>
          f.records.toList.map fun record => (⟨f.path, record⟩ : Emission)).length := by
  induction files generalizing n with
  | nil => rfl
  | cons f files ih =>
    rw [List.foldl_cons, ih, List.flatMap_cons, List.length_append, List.length_map, Nat.add_assoc]
    rfl

theorem total_of_files (h : l.files.toList = grouped es) : l.total = es.length := by
  rw [← (emissions_of_files h).length_eq, total, ← Array.foldl_toList, foldl_size, Nat.zero_add]
  rfl

/-! ## What is asked of a listing -/

/-- Two listings are equal if they hold the same files and their indices the same entries,
in whatever order a table keeps them. -/
def SameAs (l l' : Listing) : Prop :=
  l.files = l'.files ∧ l.index.Equiv l'.index

/-- A file that is listed is what is found under its path. -/
theorem Groups.mem_files_iff (h : l.Groups es) (f : FileRecords) :
    f ∈ l.files.toList ↔ l.get? f.path = some f.records := by
  rw [h.get?, h.files, grouped, List.mem_map]
  constructor
  · rintro ⟨path, hpath, rfl⟩
    exact if_pos (List.mem_eraseDups.1 hpath)
  · intro hget
    obtain ⟨hmem, hrecords⟩ := Option.ite_none_right_eq_some.1 hget
    refine ⟨f.path, List.mem_eraseDups.2 hmem, ?_⟩
    obtain ⟨path, records⟩ := f
    exact congrArg (FileRecords.mk path) (Option.some.inj hrecords)

/-- There are as many files as paths that differ. -/
theorem Groups.size (h : l.Groups es) : l.size = (es.map (·.path)).toFinset.card := by
  have hsize : l.size = l.paths.length := by
    rw [Listing.size, Listing.paths, List.length_map, Array.length_toList]
  have hfinset : (es.map (·.path)).toFinset = l.paths.toFinset := by
    ext path
    rw [h.paths, List.mem_toFinset, List.mem_toFinset, List.mem_eraseDups]
  have hnodup : l.paths.Nodup := h.paths ▸ nodup_eraseDups _
  rw [hsize, hfinset, List.toFinset_card_of_nodup hnodup]

theorem Groups.isEmpty_iff (h : l.Groups es) : l.isEmpty = true ↔ es = [] := by
  rw [Listing.isEmpty, Array.isEmpty_iff_size_eq_zero, ← Listing.size, h.size, Finset.card_eq_zero,
    List.toFinset_eq_empty_iff, List.map_eq_nil_iff]

/-- The index is told by the files. -/
theorem Groups.sameAs_iff {l' : Listing} {es' : List Emission} (h : l.Groups es)
    (h' : l'.Groups es') : l.SameAs l' ↔ l.files = l'.files := by
  refine ⟨And.left, fun hfiles => ⟨hfiles, Std.HashMap.Equiv.of_forall_getElem?_eq fun path => ?_⟩⟩
  have hpaths : (es.map (·.path)).eraseDups = (es'.map (·.path)).eraseDups := by
    rw [← h.paths, ← h'.paths, Listing.paths, Listing.paths, hfiles]
  refine Option.ext fun i => ?_
  rw [h.index path i, h'.index path i, hpaths]

/-- **A listing is a stable grouping.**

Whatever records are filed, one after the other: the paths are those under which something
was filed, each once, in the order in which they came first.  Under a path stand the
records filed there, in the order in which they were filed, and under any other path
nothing; the files that are listed are the same ones.  The counts are those of the records
and of the paths that differ, and a listing is empty when nothing was filed.  The index
tells the place of every path and of no other, so listings with the same files are equal,
index included. -/
theorem listing_groups_stably (es : List Emission) :
    (ofEmissions es).paths.Nodup ∧
    (∀ path, path ∈ (ofEmissions es).paths ↔ ∃ e ∈ es, e.path = path) ∧
    (ofEmissions es).paths.Pairwise
      (fun p q => (es.map (·.path)).idxOf p < (es.map (·.path)).idxOf q) ∧
    (∀ path, (ofEmissions es).get? path
      = if path ∈ es.map (·.path) then
          some ((es.filter (·.path == path)).map (·.record)).toArray
        else none) ∧
    (∀ f : FileRecords,
      f ∈ (ofEmissions es).files.toList ↔ (ofEmissions es).get? f.path = some f.records) ∧
    (ofEmissions es).total = es.length ∧
    (ofEmissions es).size = (es.map (·.path)).toFinset.card ∧
    ((ofEmissions es).isEmpty = true ↔ es = []) ∧
    (∀ (path : String) (i : Nat),
      (ofEmissions es).index[path]? = some i ↔ (ofEmissions es).paths[i]? = some path) ∧
    ∀ es' : List Emission,
      (ofEmissions es).SameAs (ofEmissions es') ↔
        (ofEmissions es).files = (ofEmissions es').files := by
  have h := ofEmissions_groups es
  refine ⟨?_, fun path => mem_paths_ofEmissions, ?_, h.get?, h.mem_files_iff,
    total_of_files h.files, h.size, h.isEmpty_iff, ?_,
    fun es' => h.sameAs_iff (ofEmissions_groups es')⟩
  · rw [h.paths]
    exact nodup_eraseDups _
  · rw [h.paths]
    exact pairwise_idxOf_eraseDups _
  · intro path i
    rw [h.paths]
    exact h.index path i

end Listing

end LogProblems
