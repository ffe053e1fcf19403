import Mathlib.Data.List.Forall2
import Mathlib.Data.List.Nodup
import LogProblems.Document.Value

/-!
# Ways of writing a record

A record with known fields can be written under the names of its fields, in any order and
among other names, or as a list of its values in the order of the fields, which may end before
the last of them.  Either way, a field that is absent may be null where it is not left out.
Both ways are read alike: each slot is filled with the value of its field.

* `slots_of_placed`: slots that are filled by the entries with their places;
* `optional_of_fills`: a field and its slot;
* `fields?_record`: entries with names;
* `Spells.exists_fields?`: both ways of writing.
-/

set_option autoImplicit false

namespace LogProblems.Document

/-! ## Slots -/

section Slots

variable {α : Type}

/-- The values of the entries that have a place. -/
def placed (entries : List (Option Nat × α)) (i : Nat) : List α :=
  (entries.filter fun e => e.1 = some i).map (·.2)

theorem placed_cons_self (i : Nat) (a : α) (rest : List (Option Nat × α)) :
    placed ((some i, a) :: rest) i = a :: placed rest i := by
  simp [placed]

theorem placed_cons_of_ne {place : Option Nat} {i : Nat} (h : place ≠ some i) (a : α)
    (rest : List (Option Nat × α)) : placed ((place, a) :: rest) i = placed rest i := by
  simp [placed, h]

/-- Slots hold the one entry that has their place, or nothing where there is none. -/
theorem slots_of_placed {count : Nat} {entries : List (Option Nat × α)}
    {filled : List (Option α)} (hlength : filled.length = count)
    (h : ∀ (i : Nat) (hi : i < filled.length), placed entries i = filled[i].toList) :
    slots count entries = some filled := by
  induction entries generalizing filled with
  | nil =>
    have hnone : filled = List.replicate count none := by
      refine List.ext_getElem (by rw [hlength, List.length_replicate]) fun i hi _ => ?_
      rw [List.getElem_replicate]
      exact Option.toList_eq_nil_iff.1 (h i hi).symm
    rw [slots_nil, hnone]
  | cons e rest ih =>
    obtain ⟨place, a⟩ := e
    by_cases hplace : ∃ i, place = some i ∧ i < filled.length
    · obtain ⟨i, rfl, hi⟩ := hplace
      have hself := h i hi
      rw [placed_cons_self] at hself
      -- The slot holds this entry, so that no other one has its place.
      obtain ⟨hslot, hothers⟩ : filled[i] = some a ∧ placed rest i = [] := by
        cases hfilled : filled[i] with
        | none =>
          rw [hfilled] at hself
          cases hself
        | some b =>
          rw [hfilled] at hself
          obtain ⟨rfl, hothers⟩ := List.cons.inj hself
          exact ⟨rfl, hothers⟩
      have hrest : slots count rest = some (filled.set i none) := by
        refine ih (by rw [List.length_set, hlength]) fun j hj => ?_
        rw [List.length_set] at hj
        by_cases hij : i = j
        · subst hij
          rw [hothers, List.getElem_set_self]
          rfl
        · rw [List.getElem_set_ne hij, ← h j hj, placed_cons_of_ne (by simpa using hij)]
      have hempty : (filled.set i none)[i]? = some none := by
        rw [List.getElem?_set_self hi]
      simp only [slots, hrest, hempty, List.set_set, ← hslot, List.set_getElem_self]
    · have hrest : slots count rest = some filled := by
        refine ih hlength fun i hi => ?_
        have hne : place ≠ some i := fun heq => hplace ⟨i, heq, hi⟩
        rw [← placed_cons_of_ne hne a, h i hi]
      cases place with
      | none => simp only [slots, hrest]
      | some i =>
        have hbeyond : filled[i]? = none :=
          List.getElem?_eq_none (Nat.not_lt.1 fun hi => hplace ⟨i, rfl, hi⟩)
        simp only [slots, hrest, hbeyond]

end Slots

namespace Value

/-! ## Fields -/

/-- The slot holds the value of a field; an absent field may be null. -/
def Fills (slot field : Option Value) : Prop :=
  slot = field ∨ field = none ∧ slot = some .null

theorem optional_of_fills {α : Type} {read : Value → Option α} {write : α → Value}
    {slot : Option Value} {field : Option α} (hread : ∀ a, read (write a) = some a)
    (hwrite : ∀ a, write a ≠ .null) (h : Fills slot (field.map write)) :
    optional read slot = some field := by
  have hpresent : ∀ v : Value, v ≠ .null → optional read (some v) = (read v).map some := by
    intro v hv
    cases v with
    | null => exact absurd rfl hv
    | _ => rfl
  rcases h with rfl | ⟨hnone, rfl⟩
  · cases field with
    | none => rfl
    | some a => rw [Option.map_some, hpresent _ (hwrite a), hread, Option.map_some]
  · rw [Option.map_eq_none_iff.1 hnone]
    rfl

/-- The values that stand under a name. -/
def under (entries : List (String × Value)) (name : String) : List Value :=
  (entries.filter fun e => e.1 = name).map (·.2)

/-- Entries whose names are texts. -/
def named (entries : List (String × Value)) : List (Value × Value) :=
  entries.map fun e => (.text e.1, e.2)

/-- The ways of writing a record that has these fields: entries of which one at most stands
under the name of each field, or the values of the fields up to the last that is present, or
beyond it. -/
inductive Spells (names : List String) (fields : List (Option Value)) : Value → Prop
  | record (entries : List (String × Value)) :
      List.Forall₂ (fun name field =>
        ∃ slot, Fills slot field ∧ under entries name = slot.toList) names fields →
      Spells names fields (.record (named entries))
  | positional (n : Nat) : (∀ field ∈ fields.drop n, field = none) →
      Spells names fields (.list ((fields.take n).map (·.getD .null)))

variable {names : List String} {fields : List (Option Value)}

theorem fields?_record (names : List String) (entries : List (String × Value)) :
    fields? names (.record (named entries))
      = slots names.length (entries.map fun e => (names.idxOf? e.1, e.2)) := by
  have hplaced : (named entries).mapM
        (fun e => do return (← fieldPlace names e.1, e.2))
      = some (entries.map fun e => (names.idxOf? e.1, e.2)) := by
    rw [named, List.mapM_map]
    exact List.mapM_pure
  rw [fields?, hplaced]
  rfl

theorem placed_eq_under (hnames : names.Nodup) (entries : List (String × Value)) {i : Nat}
    (hi : i < names.length) :
    placed (entries.map fun e => (names.idxOf? e.1, e.2)) i = under entries names[i] := by
  rw [placed, List.filter_map, List.map_map, under]
  congr 1
  refine List.filter_congr fun e _ => ?_
  rw [Bool.eq_iff_iff, Function.comp_apply, decide_eq_true_iff, decide_eq_true_iff]
  constructor
  · intro hplace
    obtain ⟨_, hname, -⟩ := List.idxOf?_eq_some_iff.1 hplace
    exact hname.symm
  · intro hname
    refine List.idxOf?_eq_some_iff.2 ⟨hi, hname.symm, fun j hj hj' => ?_⟩
    have hsame : j = i := (List.Nodup.getElem_inj_iff hnames).1 (hj'.trans hname)
    omega

theorem exists_slots {entries : List (String × Value)}
    (h : List.Forall₂ (fun name field =>
      ∃ slot, Fills slot field ∧ under entries name = slot.toList) names fields) :
    ∃ filled : List (Option Value), List.Forall₂ Fills filled fields ∧
      List.Forall₂ (fun name slot => under entries name = slot.toList) names filled := by
  induction h with
  | nil => exact ⟨[], .nil, .nil⟩
  | cons hfirst _ ih =>
    obtain ⟨slot, hfills, hunder⟩ := hfirst
    obtain ⟨filled, hfilled, hnamed⟩ := ih
    exact ⟨slot :: filled, .cons hfills hfilled, .cons hunder hnamed⟩

/-- Values in order fill the first slots; those of the other fields stay empty. -/
theorem fills_take {n : Nat} (h : ∀ field ∈ fields.drop n, field = none) :
    List.Forall₂ Fills (((fields.take n).map (·.getD .null)).map some
      ++ List.replicate (fields.length - (fields.take n).length) none) fields := by
  have hfirst : List.Forall₂ Fills (((fields.take n).map (·.getD .null)).map some)
      (fields.take n) := by
    rw [List.map_map, List.forall₂_map_left_iff, List.forall₂_same]
    intro field _
    cases field with
    | none => exact .inr ⟨rfl, rfl⟩
    | some v => exact .inl rfl
  have hrest : List.replicate (fields.length - (fields.take n).length) none = fields.drop n := by
    refine (List.eq_replicate_iff.2 ⟨?_, h⟩).symm
    rw [List.length_drop, List.length_take]
    omega
  rw [hrest]
  conv =>
    arg 3
    rw [← List.take_append_drop n fields]
  exact List.rel_append hfirst (List.forall₂_same.2 fun field _ => .inl rfl)

/-- However a record is written, its slots hold the values of its fields. -/
theorem Spells.exists_fields? {v : Value} (hnames : names.Nodup)
    (hlength : fields.length = names.length) (h : Spells names fields v) :
    ∃ filled, v.fields? names = some filled ∧ List.Forall₂ Fills filled fields := by
  cases h with
  | record entries hentries =>
    obtain ⟨filled, hfills, hnamed⟩ := exists_slots hentries
    refine ⟨filled, ?_, hfills⟩
    rw [fields?_record]
    refine slots_of_placed hnamed.length_eq.symm fun i hi => ?_
    have hi' : i < names.length := hnamed.length_eq ▸ hi
    rw [placed_eq_under hnames entries hi']
    exact hnamed.get hi' hi
  | positional n hrest =>
    refine ⟨_, ?_, fills_take hrest⟩
    have hle : ((fields.take n).map (·.getD .null)).length ≤ names.length := by
      rw [List.length_map, List.length_take, ← hlength]
      exact Nat.min_le_right _ _
    rw [fields?, Value.positional, if_pos hle, List.length_map, hlength]

end Value

end LogProblems.Document
