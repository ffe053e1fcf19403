import Mathlib.Data.List.Induction
import LogProblems.Proofs.Document.Json.RoundTrip
import LogProblems.Proofs.Files.Tree
import LogProblems.Settings.Session

/-!
# Sessions that are saved and loaded

A session keeps the titles of each parser in the order of the parsers' names.  Written
and read again it is the same, so a saved session is loaded as it was, whatever texts
stand in it.

* `setTitles_setTitles` and `lookup_setTitles_of_ne`: the titles of one parser are set;
* `inOrder_of_ordered`: titles in order stay as they are;
* `ofNode?_toTree` and `ofNode?_read_pretty`: the document of a session;
* `load_of_save`: the file of a session.
-/

set_option autoImplicit false

namespace LogProblems.Session

open LogProblems.Document

/-! ## Titles by parser -/

variable {name other : String} {titles : List String} {all : List (String × List String)}

theorem ne_of_name_lt {a b : String} (h : a < b) : a ≠ b := by
  rintro rfl
  exact String.lt_irrefl a h

/-- What is remembered for the other parsers stays. -/
theorem lookup_setTitles_of_ne (h : other ≠ name) :
    (setTitles name titles all).lookup other = all.lookup other := by
  have hne : (other == name) = false := beq_eq_false_iff_ne.2 h
  induction all with
  | nil => rw [setTitles, List.lookup_cons, hne]
  | cons first rest ih =>
    obtain ⟨n, ts⟩ := first
    rw [setTitles]
    split
    · next heq => rw [List.lookup_cons, List.lookup_cons, ← heq, hne]
    · split
      · rw [List.lookup_cons, hne]
      · rw [List.lookup_cons, List.lookup_cons, ih]

/-- Of two settings of one parser's titles the last counts. -/
theorem setTitles_setTitles (name : String) (titles titles' : List String)
    (all : List (String × List String)) :
    setTitles name titles' (setTitles name titles all) = setTitles name titles' all := by
  induction all with
  | nil => simp only [setTitles, if_true]
  | cons first rest ih =>
    obtain ⟨n, ts⟩ := first
    by_cases heq : name = n
    · simp only [setTitles, heq, if_true]
    · by_cases hlt : name < n
      · simp only [setTitles, heq, hlt, if_true, if_false]
      · simp only [setTitles, heq, hlt, if_false, ih]

/-- A name behind all others is put at the end. -/
theorem setTitles_of_last (h : ∀ e ∈ all, e.1 < name) :
    setTitles name titles all = all ++ [(name, titles)] := by
  induction all with
  | nil => rfl
  | cons first rest ih =>
    obtain ⟨n, ts⟩ := first
    have hlt : n < name := h (n, ts) List.mem_cons_self
    have hne : name ≠ n := (ne_of_name_lt hlt).symm
    have hnot : ¬ name < n := fun h => String.lt_irrefl n (String.lt_trans hlt h)
    rw [setTitles, if_neg hne, if_neg hnot, ih fun e he => h e (List.mem_cons_of_mem _ he),
      List.cons_append]

theorem inOrder_of_ordered (h : Ordered all) : inOrder all = all := by
  induction all using List.reverseRecOn with
  | nil => rfl
  | append_singleton init last ih =>
    obtain ⟨hinit, -, hlast⟩ := List.pairwise_append.1 h
    rw [inOrder, List.foldl_append, ← inOrder, ih hinit]
    exact setTitles_of_last fun e he => hlast e he last (List.mem_singleton_self _)

/-! ## Documents -/

theorem optional_text (t : Option String) :
    Node.optional Node.text? (some (Json.Tree.node (t.elim .null .text))) = some t := by
  cases t <;> rfl

theorem titlesOfNode?_record (all : List (String × List String)) :
    titlesOfNode? (Json.Tree.node (.record (all.map fun e => (e.1, .list (e.2.map .text)))))
      = some all := by
  have hread : ∀ e : String × List String,
      (Option.bind ((Json.Tree.node (.list (e.2.map .text))).items?) fun items =>
        (items.mapM Node.text?).bind fun titles => some (e.1, titles)) = some e := by
    intro e
    rw [Json.Tree.items?_node, Option.bind_some, Json.Tree.mapM_text?_nodes, Option.bind_some]
  simp only [titlesOfNode?, Json.Tree.entries?_node, List.map_map, Option.bind_eq_bind,
    Option.bind_some, List.mapM_map, Function.comp_def, Option.pure_def, hread]
  refine Eq.trans List.mapM_pure ?_
  rw [List.map_id']
  rfl

theorem ofNode?_toTree (s : Session) : ofNode? s.toTree.node = some s := by
  have htitles := titlesOfNode?_record s.matchers
  have hfields : s.toTree.node.fields? ["parser", "matchers", "log"]
      = some [some (Json.Tree.node (s.parser.elim .null .text)),
          some (Json.Tree.node (.record (s.matchers.map fun e => (e.1, .list (e.2.map .text))))),
          some (Json.Tree.node (s.log.elim .null .text))] := by
    rfl
  simp only [ofNode?, hfields, Option.bind_eq_bind, Option.bind_some, htitles, optional_text,
    inOrder_of_ordered s.ordered]
  rfl

theorem text_fits (room : Nat) (t : Option String) :
    Json.Tree.Fits room (t.elim .null .text) := by
  cases t <;> trivial

theorem texts_fit (room : Nat) (titles : List String) :
    Json.Tree.AllFit room (titles.map .text) := by
  induction titles with
  | nil => trivial
  | cons title rest ih => exact ⟨trivial, ih⟩

theorem titles_fit {room : Nat} (h : 0 < room) (all : List (String × List String)) :
    Json.Tree.EntriesFit room (all.map fun e => (e.1, .list (e.2.map .text))) := by
  induction all with
  | nil => trivial
  | cons e rest ih => exact ⟨⟨h, texts_fit _ _⟩, ih⟩

/-- A session is not nested deep. -/
theorem toTree_fits (s : Session) : s.toTree.Fits Json.nestingLimit := by
  refine ⟨by decide, text_fits _ _, ⟨by decide, ?_⟩, text_fits _ _, trivial⟩
  exact titles_fit (by decide) s.matchers

theorem ofNode?_read_pretty (s : Session) :
    (Json.read s.toTree.pretty).bind ofNode? = some s := by
  rw [Json.read_pretty (toTree_fits s), Option.bind_some, ofNode?_toTree]

/-! ## Files -/

variable {t u : FileTree} {path : String} {s : Session}

theorem load_congr (h : u.read path = t.read path) : load u path = load t path := by
  rw [load, load, FileTree.exists?, FileTree.exists?, h, FileTree.readText_congr h]

theorem load_of_read {text : String} (h : t.read path = .ok (Text.Utf8.encode text))
    (hread : (Json.read text).bind ofNode? = some s) : load t path = .ok s := by
  have hexists : t.exists? path = true := by rw [FileTree.exists?, h]
  simp only [load, hexists, if_true, FileTree.readText_of_read h, hread]

theorem load_of_notFound (h : t.read path = .error .notFound) : load t path = .ok {} := by
  have hexists : t.exists? path = false := by
    rw [FileTree.exists?, h]
    rfl
  rw [load, hexists, if_neg Bool.false_ne_true]

theorem save_eq_ok_iff :
    s.save t path = .ok u ↔ t.write path (Text.Utf8.encode s.toTree.pretty) = .ok u := by
  rw [save]
  cases t.write path (Text.Utf8.encode s.toTree.pretty) <;> simp

theorem load_of_save (h : s.save t path = .ok u) : load u path = .ok s :=
  load_of_read (FileTree.read_of_write (save_eq_ok_iff.1 h)) (ofNode?_read_pretty s)

/-- To remember a scan with other titles is to forget the titles before. -/
theorem record_record (s : Session) (selection : Selection) (titles : List String) (log : String) :
    (s.record selection log).record { selection with matchers := titles } log
      = s.record { selection with matchers := titles } log :=
  Session.ext rfl (setTitles_setTitles _ _ _ _) rfl

end LogProblems.Session
